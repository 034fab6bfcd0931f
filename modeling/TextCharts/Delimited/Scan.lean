import TextCharts.Delimited.Dialect
import TextCharts.Text.Blank

/-!
Cutting a text into rows of fields, one character at a time. No text is malformed: a quote that
stays open runs to the end, and separators between quotes are data.
-/

namespace TextCharts

-- Where in a field the scan stands.
inductive Scan.Place
  | outside
  | inside
  -- After a quote inside quotes, which ends them or stands for itself.
  | afterQuote
  -- After what may be the first of two characters that end a row.
  | afterFirst
  deriving DecidableEq, Repr

-- What has been read so far. The three lists are in reverse.
structure Scan where
  place : Scan.Place := .outside
  field : List Char := []
  row : List String := []
  rows : List (List String) := []
  deriving DecidableEq, Repr

namespace Scan

def goto (place : Place) (s : Scan) : Scan :=
  { s with place }

def push (s : Scan) (c : Char) : Scan :=
  { s with field := c :: s.field }

def closeField (d : Dialect) (s : Scan) : Scan :=
  let text := if d.trimFields then Text.trim s.field.reverse else s.field.reverse
  { s with field := [], row := .ofList text :: s.row }

def closeRow (d : Dialect) (s : Scan) : Scan :=
  let s := s.closeField d
  { s with row := [], rows := s.row.reverse :: s.rows }

-- Reads a character outside quotes. The quote character is tested first, then the field separator,
-- then the record separator, so that they may coincide.
def readOutside (d : Dialect) (s : Scan) (c : Char) : Scan :=
  if c = d.quoteChar then s.goto .inside
  else if c = d.fieldSeparator then s.closeField d
  else if c = d.recordChars.1 then
    if d.recordChars.2 = none then s.closeRow d else s.goto .afterFirst
  else s.push c

def step (d : Dialect) (s : Scan) (c : Char) : Scan :=
  match s.place with
  | .outside => s.readOutside d c
  | .inside => if c = d.quoteChar then s.goto .afterQuote else s.push c
  | .afterQuote =>
    if c = d.quoteChar then (s.push c).goto .inside else (s.goto .outside).readOutside d c
  | .afterFirst =>
    if some c = d.recordChars.2 then (s.closeRow d).goto .outside
    else ((s.push d.recordChars.1).goto .outside).readOutside d c

-- Closes the last row.
def finish (d : Dialect) (s : Scan) : List (List String) :=
  let s := if s.place = .afterFirst then s.push d.recordChars.1 else s
  (s.closeRow d).rows.reverse

end Scan

namespace Dialect

-- All rows of a text, the header among them; there is at least one.
def scan (d : Dialect) (text : List Char) : List (List String) :=
  (text.foldl (Scan.step d) {}).finish d

-- Drops a last row that is shorter than the first, as a separator at the end leaves one.
def dropShortLast (rows : List (List String)) : List (List String) :=
  match rows.head?, rows.getLast? with
  | some first, some last => if last.length < first.length then rows.dropLast else rows
  | _, _ => rows

-- The rows that count.
def parse (d : Dialect) (text : String) : List (List String) :=
  let rows := d.scan text.toList
  dropShortLast (if d.stripHeader then rows.drop 1 else rows)

end Dialect
end TextCharts
