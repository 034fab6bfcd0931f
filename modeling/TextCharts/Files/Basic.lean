import TextCharts.Files.Error

namespace TextCharts

-- A text and the directory that it lies in.
structure TextFile where
  directory : List String
  text : String
  deriving DecidableEq, Repr

abbrev Files :=
  String → Except FileError TextFile

-- How many milliseconds it takes until a file is read, or is known to be unreadable; `none` if the
-- reading never ends, as with a pipe into which nothing is written.
abbrev Delays :=
  String → Option Nat

-- The text that bytes stand for.
def textOf (bytes : ByteArray) : Except FileError String :=
  match String.fromUTF8? bytes with
  | some text => .ok text
  | none => .error .notText

namespace Files

def text (files : Files) (name : String) : Except FileError String :=
  (files name).map (·.text)

-- Files of which only some are known.
def ofAnswers (answers : List (String × Except FileError TextFile)) : Files := fun name =>
  (answers.lookup name).getD (.error .notFound)

end Files
end TextCharts
