namespace TextCharts

structure Dialect where
  fieldSeparator : Char := ','
  recordSeparator : String := "\r\n"
  quoteChar : Char := '"'
  stripHeader : Bool := false
  trimFields : Bool := false
  deriving DecidableEq, Repr

namespace Dialect

-- The first two characters of the record separator, or those of the default if it is empty.
def recordChars (d : Dialect) : Char × Option Char :=
  match d.recordSeparator.toList with
  | [] => ('\r', some '\n')
  | first :: rest => (first, rest.head?)

end Dialect
end TextCharts
