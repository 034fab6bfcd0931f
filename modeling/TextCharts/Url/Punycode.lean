/-!
Names in few characters. Characters beyond ASCII are taken out of a name and written behind it in
the order of their code points, each as a number in base 36 whose digits have weights that follow
the numbers before.
-/

namespace TextCharts.Url.Punycode

def base : Nat := 36
def firstBias : Nat := 72
def firstCode : Nat := 128

def digitChar (n : Nat) : Char :=
  if n < 26 then .ofNat ('a'.toNat + n) else .ofNat ('0'.toNat + n - 26)

def digit? (c : Char) : Option Nat :=
  if 'a' ≤ c && c ≤ 'z' then some (c.toNat - 'a'.toNat)
  else if 'A' ≤ c && c ≤ 'Z' then some (c.toNat - 'A'.toNat)
  else if c.isDigit then some (c.toNat - '0'.toNat + 26)
  else none

-- The least digit at weight `k` that is not the last of its number.
def threshold (k bias : Nat) : Nat :=
  min (max (k - bias) 1) 26

theorem threshold_pos (k bias : Nat) : 1 ≤ threshold k bias := by
  unfold threshold
  omega

def shrink (k delta : Nat) : Nat × Nat :=
  if 455 < delta then shrink (k + base) (delta / 35) else (k, delta)
  termination_by delta
  decreasing_by omega

-- The bias after a number, for `count` characters so far.
def adapt (delta count : Nat) (first : Bool) : Nat :=
  let delta := if first then delta / 700 else delta / 2
  let (k, delta) := shrink 0 (delta + delta / count)
  k + 36 * delta / (delta + 38)

def encodeNumber (bias k q : Nat) : List Char :=
  let t := threshold k bias
  if q < t then [digitChar q]
  else digitChar (t + (q - t) % (base - t)) :: encodeNumber bias (k + base) ((q - t) / (base - t))
  termination_by q
  decreasing_by
    have := threshold_pos k bias
    have := Nat.div_le_self (q - threshold k bias) (base - threshold k bias)
    omega

-- Where the writing stands: characters handled, the number to write next and the bias.
structure Cursor where
  done : Nat
  delta : Nat := 0
  bias : Nat := firstBias
  first : Bool := true

-- Walks over the whole name for one code point and writes its places.
def encodePlaces (code : Nat) : Cursor → List Nat → List Char × Cursor
  | s, [] => ([], { s with delta := s.delta + 1 })
  | s, n :: rest =>
    if n = code then
      let number := encodeNumber s.bias base s.delta
      let next : Cursor :=
        { done := s.done + 1, bias := adapt s.delta (s.done + 1) s.first, first := false }
      let (text, last) := encodePlaces code next rest
      (number ++ text, last)
    else encodePlaces code (if n < code then { s with delta := s.delta + 1 } else s) rest

-- Writes code points in ascending order, `code` being the first that may come.
def encodeCodes (name : List Nat) : Nat → Cursor → List Nat → List Char
  | _, _, [] => []
  | code, s, next :: rest =>
    let s := { s with delta := s.delta + (next - code) * (s.done + 1) }
    let (text, last) := encodePlaces next s name
    text ++ encodeCodes name (next + 1) last rest

def insertCode (n : Nat) : List Nat → List Nat
  | [] => [n]
  | m :: rest =>
    if n < m then n :: m :: rest else if n = m then m :: rest else m :: insertCode n rest

-- The code points beyond ASCII, each once and in ascending order.
def codes (name : List Nat) : List Nat :=
  (name.filter (firstCode ≤ ·)).foldl (fun sorted n => insertCode n sorted) []

def encode (name : List Char) : List Char :=
  let plain := name.filter (·.toNat < firstCode)
  let numbers := name.map Char.toNat
  let tail := encodeCodes numbers firstCode { done := plain.length } (codes numbers)
  if plain.isEmpty then tail else plain ++ '-' :: tail

-- Where the reading stands: the characters so far, the place of the next one and the weight of the
-- next digit.
structure Reader where
  chars : List Char
  code : Nat := firstCode
  place : Nat := 0
  bias : Nat := firstBias
  start : Nat := 0
  weight : Nat := 1
  k : Nat := base
  first : Bool := true

-- Takes a character in after the last digit of a number.
def Reader.close? (r : Reader) : Option Reader :=
  let count := r.chars.length + 1
  let code := r.code + r.place / count
  let place := r.place % count
  if code < 0xd800 || (0xe000 ≤ code && code < 0x110000) then
    some {
      chars := r.chars.take place ++ .ofNat code :: r.chars.drop place
      code
      place := place + 1
      bias := adapt (r.place - r.start) count r.first
      start := place + 1
      first := false }
  else none

def decodeDigits? : Reader → List Char → Option (List Char)
  | r, [] => if r.k = base then some r.chars else none
  | r, c :: rest =>
    match digit? c with
    | none => none
    | some d =>
      let t := threshold r.k r.bias
      let r := { r with place := r.place + d * r.weight }
      if d < t then
        match r.close? with
        | none => none
        | some r => decodeDigits? r rest
      else decodeDigits? { r with weight := r.weight * (base - t), k := r.k + base } rest

-- Reads what `encode` writes; digits follow the last hyphen.
def decode? (text : List Char) : Option (List Char) :=
  let tail := (text.reverse.takeWhile (· != '-')).reverse
  let plain := (text.take (text.length - tail.length)).dropLast
  if plain.all (·.toNat < firstCode) then decodeDigits? { chars := plain } tail else none

end TextCharts.Url.Punycode
