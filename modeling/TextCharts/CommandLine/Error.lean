namespace TextCharts.CommandLine

inductive ArgumentError
  -- Nothing is given at all.
  | nothingGiven
  | noCommand
  | unknownCommand
  | unknownArgument
  -- Something that may be given once is given again.
  | repeated
  | missingValue
  | badValue
  -- A value for what takes none.
  | unexpectedValue
  | missingDocument
  -- The use of a command is asked for.
  | help
  | version
  deriving DecidableEq, Repr

namespace ArgumentError

-- A question is no mistake.
def isQuestion : ArgumentError → Bool
  | help => true
  | version => true
  | _ => false

def message : ArgumentError → String
  | nothingGiven => "no command is given"
  | noCommand => "a command is missing"
  | unknownCommand => "there is no such command"
  | unknownArgument => "there is no such argument"
  | repeated => "an argument is given twice"
  | missingValue => "a value is missing"
  | badValue => "a value is not of its kind"
  | unexpectedValue => "a value is given for an option without one"
  | missingDocument => "the document is missing"
  | help => "commands: render DOCUMENT, parse [FILE], renderers"
  | version => "csv-render 0.1.0"

end ArgumentError
end TextCharts.CommandLine
