import TextCharts.Json.Basic

/-!
Reading numbers. Digits go into a significand below `2 ^ 64`. The first digit that would not fit any
more ends the exact part: further digits before the point only raise the exponent, and further
digits after it do not count. The double is the significand times or divided by a power of ten, each
of the two rounded, so that it can miss the nearest double by a unit in the last place.
-/

namespace TextCharts.Json.Number

-- Digits still to come after the ones that a function has taken.
abbrev Rest :=
  List Char

def digit? (c : Char) : Option Nat :=
  if c.isDigit then some (c.toNat - '0'.toNat) else none

def dropDigits (text : Rest) : Rest :=
  text.dropWhile Char.isDigit

-- Whether one more digit would leave the range up to `limit`.
def overflows (limit n d : Nat) : Bool :=
  limit < n * 10 + d

def maxSignificand : Nat :=
  Nat.pow 2 64 - 1

def maxExponent : Nat :=
  Nat.pow 2 31 - 1

def powerOfTen (k : Nat) : Float :=
  .ofScientific 1 false k

-- Divides by powers of ten that are doubles themselves, `10 ^ 308` at most.
def shrink : Nat → Float → Nat → Float
  | 0, x, _ => x
  | fuel + 1, x, k =>
    if k ≤ 308 then x / powerOfTen k
    else if x == 0 then x
    else shrink fuel (x / powerOfTen 308) (k - 308)

-- A double that would be infinite is no number.
def assemble? (negative : Bool) (significand : Nat) (exponent : Int) : Option Number :=
  let x : Float := .ofScientific significand false 0
  let magnitude : Option Float := match exponent with
    | .ofNat k =>
      if k ≤ 308 then
        let y := x * powerOfTen k
        if y.isInf then none else some y
      else if significand = 0 then some x
      else none
    | .negSucc k => some (shrink 4 x (k + 1))
  magnitude.map fun y => .double (if negative then -y else y)

-- The digits of an exponent; one beyond 32 bits leaves zero, or no number at all.
def exponentDigits? (negative : Bool) (significand : Nat) (base : Int) (down : Bool) (n : Nat) :
    Rest → Option (Number × Rest)
  | [] => finish []
  | c :: rest =>
    match digit? c with
    | none => finish (c :: rest)
    | some d =>
      if overflows maxExponent n d then
        if significand = 0 || down then
          some (.double (if negative then -0.0 else 0.0), dropDigits rest)
        else none
      else exponentDigits? negative significand base down (n * 10 + d) rest
where
  finish (rest : Rest) : Option (Number × Rest) :=
    (assemble? negative significand (if down then base - n else base + n)).map (·, rest)

-- What follows the letter of an exponent.
def exponent? (negative : Bool) (significand : Nat) (base : Int) (text : Rest) :
    Option (Number × Rest) :=
  let (down, digits) := match text with
    | '-' :: rest => (true, rest)
    | '+' :: rest => (false, rest)
    | _ => (false, text)
  match digits with
  | c :: rest => do exponentDigits? negative significand base down (← digit? c) rest
  | [] => none

-- What follows the last digit of the significand.
def ending? (negative : Bool) (significand : Nat) (exponent : Int) :
    Rest → Option (Number × Rest)
  | c :: rest =>
    if c == 'e' || c == 'E' then exponent? negative significand exponent rest
    else (assemble? negative significand exponent).map (·, c :: rest)
  | [] => (assemble? negative significand exponent).map (·, [])

-- The digits after the point; at least one has to be there.
def fraction? (negative : Bool) (significand : Nat) (exponent : Int) (started : Bool) :
    Rest → Option (Number × Rest)
  | [] => if started then ending? negative significand exponent [] else none
  | c :: rest =>
    match digit? c with
    | none => if started then ending? negative significand exponent (c :: rest) else none
    | some d =>
      if overflows maxSignificand significand d then
        ending? negative significand exponent (dropDigits rest)
      else fraction? negative (significand * 10 + d) (exponent - 1) true rest

-- Digits before the point that the significand has no room for.
def surplus? (negative : Bool) (significand exponent : Nat) : Rest → Option (Number × Rest)
  | [] => ending? negative significand exponent []
  | c :: rest =>
    if c.isDigit then surplus? negative significand (exponent + 1) rest
    else if c == '.' then fraction? negative significand exponent false rest
    else ending? negative significand exponent (c :: rest)

-- A number without a point or an exponent: an integer if it fits, and never a negative zero.
def whole (negative : Bool) (significand : Nat) : Number :=
  if !negative then .integer significand
  else if significand = 0 || Nat.pow 2 63 < significand then
    .double (-.ofScientific significand false 0)
  else .integer (-significand)

-- The digits before the point, after the first of them.
def digits? (negative : Bool) (significand : Nat) : Rest → Option (Number × Rest)
  | [] => some (whole negative significand, [])
  | c :: rest =>
    match digit? c with
    | some d =>
      if overflows maxSignificand significand d then surplus? negative significand 1 rest
      else digits? negative (significand * 10 + d) rest
    | none =>
      if c == '.' then fraction? negative significand 0 false rest
      else if c == 'e' || c == 'E' then exponent? negative significand 0 rest
      else some (whole negative significand, c :: rest)

-- Reads a number and returns the text after it. A zero is followed by no other digit.
def read? (text : Rest) : Option (Number × Rest) :=
  let (negative, digits) := match text with
    | '-' :: rest => (true, rest)
    | _ => (false, text)
  match digits with
  | '0' :: c :: rest =>
    if c.isDigit then none else digits? negative 0 (c :: rest)
  | c :: rest => do digits? negative (← digit? c) rest
  | [] => none

end TextCharts.Json.Number
