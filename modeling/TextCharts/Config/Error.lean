import TextCharts.Text.Quoted

namespace TextCharts

inductive ConfigError
  | recordSeparatorLength (count : Nat)
  | notSingleChar (key value : String)
  | notJson
  | notAnObject
  | missingField (key : String)
  deriving DecidableEq, Repr

def ConfigError.message : ConfigError → String
  | recordSeparatorLength count =>
    s!"record separator must be 1 or 2 characters, got {count}"
  | notSingleChar key value =>
    "`" ++ key ++ "` must be a single character, got " ++ Text.quoted value
  | notJson => "node configuration is not valid JSON"
  | notAnObject => "node configuration must be a JSON object"
  | missingField key => "node configuration missing string field `" ++ key ++ "`"

end TextCharts
