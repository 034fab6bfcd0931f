import TextCharts.Json.Basic
import TextCharts.Render.Error

namespace TextCharts

abbrev Options :=
  Json.Entries

-- Whether renderers may use colours.
structure Style where
  color : Bool
  deriving DecidableEq, Repr

namespace Options

def text? (options : Options) (key : String) : Option String :=
  (options.get? key).bind Json.asString?

-- An option that is null counts as absent.
def read? {α : Type} (kind : OptionKind) (read : Json → Option α) (options : Options)
    (key : String) : Except DrawError (Option α) :=
  match options.get? key with
  | none => .ok none
  | some .null => .ok none
  | some value =>
    match read value with
    | some a => .ok (some a)
    | none => .error (.badOption key kind)

def natural? (options : Options) (key : String) : Except DrawError (Option Nat) :=
  options.read? .natural Json.asNat? key

def number? (options : Options) (key : String) : Except DrawError (Option Float) :=
  options.read? .number Json.asDouble? key

end Options
end TextCharts
