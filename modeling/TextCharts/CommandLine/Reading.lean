import TextCharts.CommandLine.Error
import TextCharts.Text.Digit
import TextCharts.Url.Parse

/-!
Reading words one after the other. An option waits for its value until the next plain word, and a
value that has come is checked and kept only when something follows it or the words end; so a fault
of it gives way to an unknown word right after it.
-/

namespace TextCharts.CommandLine

-- What a value has to be.
inductive ValueKind
  | text
  | fileName
  | character
  | milliseconds
  | url
  deriving DecidableEq, Repr

-- The number of milliseconds has 64 bits.
def milliseconds? (value : String) : Option Nat :=
  (Text.signedIn? 10 value.toList).filter (· < Nat.pow 2 64)

def character? (value : String) : Option Char :=
  match value.toList with
  | [c] => some c
  | _ => none

def url? (value : String) : Option Url :=
  (Url.parse value).toOption

-- The fault of a value; the empty name of a file counts as no value.
def ValueKind.fault? (value : String) : ValueKind → Option ArgumentError
  | text => none
  | fileName => if value.isEmpty then some .missingValue else none
  | character => if (character? value).isNone then some .badValue else none
  | milliseconds => if (milliseconds? value).isNone then some .badValue else none
  | url => if (url? value).isNone then some .badValue else none

inductive Role
  | flag
  | value (kind : ValueKind)
  -- Ends the reading at once.
  | question (answer : ArgumentError)
  deriving DecidableEq, Repr

-- What can be given, with the name that an option has after two dashes.
structure Slot where
  name : String
  role : Role
  deriving DecidableEq, Repr

-- What the words may be: options, letters after one dash, one value without a name, and commands,
-- of which the first one leaves all further words to itself.
structure Signature where
  options : List Slot
  letters : List (Char × Slot)
  positional : Option Slot := none
  commands : List String := []

inductive Word
  -- Every word after this one is plain.
  | separator
  | long (name : String) (value : Option String)
  | short (letter : Char)
  | plain
  deriving DecidableEq, Repr

-- A single dash is a plain word.
def Word.ofText (text : String) : Word :=
  match text.toList with
  | ['-', '-'] => .separator
  | '-' :: '-' :: rest =>
    let name := .ofList (rest.takeWhile (· != '='))
    match rest.dropWhile (· != '=') with
    | [] => .long name none
    | _ :: value => .long name (some (.ofList value))
  | '-' :: letter :: _ => .short letter
  | _ => .plain

-- The values by the names of their slots; a flag has an empty one.
abbrev Given :=
  List (String × String)

structure Reading where
  given : Given := []
  -- The slot that comes next, with its value if that is there.
  pending : Option (Slot × Option String) := none
  -- Whether the value without a name has come.
  placed : Bool := false
  -- Whether all words are plain from here on.
  literal : Bool := false

namespace Reading

def isWaiting (r : Reading) : Bool :=
  match r.pending with
  | some (_, none) => true
  | _ => false

def give (r : Reading) (name value : String) : Except ArgumentError Reading :=
  if (r.given.lookup name).isSome then .error .repeated
  else .ok { r with given := r.given ++ [(name, value)] }

def giveValue (r : Reading) (name value : String) (kind : ValueKind) :
    Except ArgumentError Reading := do
  let given ← r.give name value
  match kind.fault? value with
  | some e => .error e
  | none => .ok given

-- Keeps what is pending.
def settle (r : Reading) : Except ArgumentError Reading :=
  let rest := { r with pending := none }
  match r.pending with
  | none => .ok rest
  | some (_, none) => .error .missingValue
  | some (slot, some value) =>
    match slot.role with
    | .value kind => rest.giveValue slot.name value kind
    | _ => rest.give slot.name value

-- An option with what comes after its equals sign.
def readOption (r : Reading) (slot : Slot) (attached : Option String) :
    Except ArgumentError Reading :=
  match slot.role, attached with
  | .value kind, some value => do (← r.settle).giveValue slot.name value kind
  | .value _, none => do return { ← r.settle with pending := some (slot, none) }
  | _, some _ => .error .unexpectedValue
  | .flag, none => do (← r.settle).give slot.name ""
  | .question answer, none => do
    let _ ← r.settle
    .error answer

-- A word that is no option and no value of one.
def place (s : Signature) (r : Reading) (word : String) : Except ArgumentError Reading :=
  match s.positional with
  | some slot =>
    if r.placed then .error .unknownArgument
    else do return { ← r.settle with pending := some (slot, some word), placed := true }
  | none =>
    if s.commands.isEmpty || (r.literal && s.commands.contains word) then .error .unknownArgument
    else .error .unknownCommand

def step (s : Signature) (r : Reading) (word : String) : Except ArgumentError Reading :=
  if r.literal then place s r word
  else match Word.ofText word, r.pending with
    | .separator, _ => .ok { r with literal := true }
    | .long name attached, _ =>
      match s.options.find? (·.name == name) with
      | some slot => r.readOption slot attached
      | none => .error .unknownArgument
    | .short letter, _ =>
      match s.letters.lookup letter with
      | some slot => r.readOption slot none
      | none => .error .unknownArgument
    | .plain, some (slot, none) => .ok { r with pending := some (slot, some word) }
    | .plain, _ => place s r word

-- Reads up to the first command, which comes back with the words after it.
def read (s : Signature) : Reading → List String →
    Except ArgumentError (Reading × Option (String × List String))
  | r, [] => .ok (r, none)
  | r, word :: rest =>
    if !r.literal && !r.isWaiting && s.commands.contains word then .ok (r, some (word, rest))
    else do read s (← step s r word) rest

-- All that is given by words without a command.
def values (s : Signature) (words : List String) : Except ArgumentError Given := do
  let (r, _) ← read s {} words
  return (← r.settle).given

end Reading
end TextCharts.CommandLine
