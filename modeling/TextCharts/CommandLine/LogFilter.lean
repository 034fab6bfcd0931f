import TextCharts.Text.Blank
import TextCharts.Text.Digit
import TextCharts.Text.Letter
import TextCharts.Text.Split

namespace TextCharts.LogFilter

inductive Error
  | badDirective
  | badLevel
  deriving DecidableEq, Repr

def Error.message : Error → String
  | badDirective => "invalid filter directive"
  | badLevel => "error parsing level filter: expected one of \"off\", \"error\", \"warn\", " ++
      "\"info\", \"debug\", \"trace\", or a number 0-5"

-- Where in a directive a character stands.
inductive Place
  | start
  -- In a target, or in a level that stands alone.
  | name
  | span
  -- Before the first character of a field.
  | noField
  | field
  | afterFields
  | afterSpan
  | level
  deriving DecidableEq, Repr

def startsName (c : Char) : Bool :=
  c == '-' || c == ':' || c == '_' || Text.isAlphanumeric c

def Place.next? (c : Char) : Place → Option Place
  | start => if c = '[' then some span else if startsName c then some name else none
  | name => if c = '=' then some level else if c = '[' then some span else some name
  | span => if c = ']' then some afterSpan else if c = '{' then some noField else some span
  | noField => if c = '}' then none else some field
  | field => if c = '}' then some afterFields else some field
  | afterFields => if c = ']' then some afterSpan else none
  | afterSpan => if c = '=' then some level else none
  | level => some level

-- Whether a directive may end here.
def Place.isEnd : Place → Bool
  | name => true
  | afterSpan => true
  | level => true
  | _ => false

-- The place after a directive, and how many of its characters come before the level.
def walk? (directive : List Char) : Option (Place × Nat) :=
  directive.foldlM (fun (place, before) c => do
    let place' ← place.next? c
    return (place', if place = .level then before else before + 1)) (.start, 0)

def levelNames : List String :=
  ["off", "error", "warn", "info", "debug", "trace"]

-- The name of a level in any case, or its number; the empty level is the finest.
def isLevel (level : List Char) : Bool :=
  level.isEmpty || levelNames.contains (Text.lowerAscii (.ofList level)) ||
    ((Text.signedIn? 10 level).any (· < levelNames.length))

-- A directive is walked without its surrounding blanks, but its level is found by counting from
-- its very beginning and keeps the blanks behind it.
def checkDirective (directive : List Char) : Except Error Unit :=
  match walk? (Text.trim directive) with
  | none => .error .badDirective
  | some (place, before) =>
    if !place.isEnd then .error .badDirective
    else if place = .level && !isLevel (directive.drop before) then .error .badLevel
    else .ok ()

-- Empty directives are skipped.
def check (filter : String) : Except Error Unit :=
  ((Text.splitOn ',' filter.toList).filter (!·.isEmpty)).forM checkDirective

end TextCharts.LogFilter
