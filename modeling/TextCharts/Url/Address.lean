import TextCharts.Text.Digit
import TextCharts.Text.Split

/-!
Numeric addresses of hosts. Four bytes may be written as one to four numbers, of which the last
fills all bytes that are left, in base ten, eight or sixteen; eight pieces of sixteen bits stand in
brackets, and two colons stand for as many zeros as are missing.
-/

namespace TextCharts.Url

namespace Ipv4

-- A number after the mark of its base; a mark alone is zero.
def number? (text : List Char) : Option Nat :=
  match text with
  | [] => none
  | '0' :: 'x' :: digits => Text.naturalIn? 16 digits
  | '0' :: 'X' :: digits => Text.naturalIn? 16 digits
  | '0' :: c :: digits => Text.naturalIn? 8 (c :: digits)
  | digits => Text.naturalIn? 10 digits

-- Whether a name has to be an address: its last part that is not empty is a number.
def isMeant (name : List Char) : Bool :=
  let parts := (Text.splitOn '.' name).reverse
  let last? := match parts with
    | [] :: last :: _ => some last
    | [[]] => none
    | last :: _ => some last
    | [] => none
  match last? with
  | none => false
  | some last => (!last.isEmpty && last.all Char.isDigit) || (number? last).isSome

-- Without the empty part after a dot at the end.
def parts (name : List Char) : List (List Char) :=
  let parts := Text.splitOn '.' name
  if parts.getLast? = some [] then parts.dropLast else parts

-- All numbers but the last fill one byte each.
def ofNumbers? : Nat → List Nat → Option Nat
  | _, [] => none
  | bytes, [n] => if n < Nat.pow 256 bytes then some n else none
  | bytes, n :: rest =>
    if n < 256 then (ofNumbers? (bytes - 1) rest).map (n * Nat.pow 256 (bytes - 1) + ·) else none

def parse? (name : List Char) : Option Nat := do
  let parts := parts name
  if 4 < parts.length then none
  else ofNumbers? 4 (← parts.mapM number?)

def shown (n : Nat) : String :=
  s!"{n / Nat.pow 256 3 % 256}.{n / Nat.pow 256 2 % 256}.{n / 256 % 256}.{n % 256}"

end Ipv4

namespace Ipv6

-- A piece of one to four digits, and what follows it.
def piece (text : List Char) : List Char × List Char :=
  let digits := (text.take 4).takeWhile fun c => (Text.digitIn? 16 c).isSome
  (digits, text.drop digits.length)

-- A byte in base ten, without a zero in front.
def byte? (digits : List Char) : Option Nat :=
  match digits with
  | [] => none
  | '0' :: _ :: _ => none
  | digits => (Text.naturalIn? 10 digits).filter (· < 256)

-- The last two pieces as four bytes.
def tail? (text : List Char) : Option (List Nat) := do
  match ← (Text.splitOn '.' text).mapM byte? with
  | [a, b, c, d] => some [a * 256 + b, c * 256 + d]
  | _ => none

-- The pieces before the gap and after it, if there is a gap.
structure Pieces where
  before : List Nat := []
  after : Option (List Nat) := none

namespace Pieces

def count (p : Pieces) : Nat :=
  p.before.length + (p.after.getD []).length

def add (p : Pieces) (numbers : List Nat) : Pieces :=
  match p.after with
  | none => { p with before := p.before ++ numbers }
  | some after => { p with after := some (after ++ numbers) }

def finish? (p : Pieces) : Option (List Nat) :=
  match p.after with
  | none => if p.before.length = 8 then some p.before else none
  | some after =>
    if p.count < 8 then some (p.before ++ .replicate (8 - p.count) 0 ++ after) else none

end Pieces

-- Reads the pieces from the place of the next one on.
def pieces? : Nat → Pieces → List Char → Option Pieces
  | 0, _, _ => none
  | _ + 1, p, [] => some p
  | fuel + 1, p, ':' :: rest =>
    if p.after.isSome || p.count = 8 then none
    else pieces? fuel { p with after := some [] } rest
  | fuel + 1, p, text =>
    if p.count = 8 then none
    else
      let (digits, rest) := piece text
      match rest with
      | '.' :: _ =>
        if digits.isEmpty || 6 < p.count then none
        else (tail? text).map p.add
      | ':' :: next :: rest =>
        (Text.naturalIn? 16 digits).bind fun n => pieces? fuel (p.add [n]) (next :: rest)
      | [] => (Text.naturalIn? 16 digits).map fun n => p.add [n]
      | _ => none

def parse? (text : List Char) : Option (List Nat) :=
  let start := match text with
    | ':' :: ':' :: rest => some (({ after := some [] } : Pieces), rest)
    | ':' :: _ => none
    | [] => none
    | _ => some ({}, text)
  start.bind fun (p, rest) => (pieces? (rest.length + 1) p rest).bind Pieces.finish?

-- The length of the run of zeros at the front.
def zeros (pieces : List Nat) : Nat :=
  (pieces.takeWhile (· == 0)).length

-- The place and the length of the first longest run of two zeros or more.
def longestRun (pieces : List Nat) : Option (Nat × Nat) :=
  let runs := (List.range pieces.length).map fun i => (i, zeros (pieces.drop i))
  runs.foldl (fun best (i, n) =>
    match best with
    | none => if 2 ≤ n then some (i, n) else none
    | some (_, m) => if m < n then some (i, n) else best) none

def shownPieces (pieces : List Nat) : String :=
  ":".intercalate (pieces.map fun n => .ofList (Nat.toDigits 16 n))

def shown (pieces : List Nat) : String :=
  match longestRun pieces with
  | none => shownPieces pieces
  | some (i, n) => shownPieces (pieces.take i) ++ "::" ++ shownPieces (pieces.drop (i + n))

end Ipv6
end TextCharts.Url
