namespace TextCharts

-- A number without a point or an exponent that fits 64 bits stays an integer.
inductive Json.Number
  | integer (n : Int)
  | double (x : Float)

inductive Json
  | null
  | bool (b : Bool)
  | number (n : Json.Number)
  | string (s : String)
  | array (items : List Json)
  | object (entries : List (String × Json))

namespace Json

instance : Inhabited Json :=
  ⟨.null⟩

def strings (items : List String) : Json :=
  .array (items.map .string)

-- The entries of an object, of which a later one replaces an earlier one of the same key.
abbrev Entries :=
  List (String × Json)

def Entries.get? (entries : Entries) (key : String) : Option Json :=
  (entries.find? (·.1 == key)).map (·.2)

def Entries.put (entries : Entries) (key : String) (value : Json) : Entries :=
  match entries with
  | [] => [(key, value)]
  | entry :: rest =>
    if entry.1 == key then (key, value) :: rest else entry :: Entries.put rest key value

def get? (key : String) : Json → Option Json
  | .object entries => Entries.get? entries key
  | _ => none

def asString? : Json → Option String
  | .string s => some s
  | _ => none

-- An integer that is not negative.
def asNat? : Json → Option Nat
  | .number (.integer (.ofNat n)) => some n
  | _ => none

-- The double nearest to an integer.
def Number.ofInt (n : Int) : Float :=
  match n with
  | .ofNat n => .ofScientific n false 0
  | .negSucc n => -.ofScientific (n + 1) false 0

def Number.toDouble : Number → Float
  | .integer n => .ofInt n
  | .double x => x

def asDouble? : Json → Option Float
  | .number n => some n.toDouble
  | _ => none

end Json
end TextCharts
