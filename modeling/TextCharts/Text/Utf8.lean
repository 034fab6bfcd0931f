/-!
Text as bytes and back. Where bytes are no text, the longest part that could have begun a character
becomes one replacement character.
-/

namespace TextCharts.Text

def replacement : Char :=
  '\ufffd'

def isContinuation (b : UInt8) : Bool :=
  0x80 ≤ b && b ≤ 0xbf

-- Whether a byte may come second after a first one that announces three bytes or four.
def isSecond (first second : UInt8) : Bool :=
  if first = 0xe0 then 0xa0 ≤ second && second ≤ 0xbf
  else if first = 0xed then 0x80 ≤ second && second ≤ 0x9f
  else if first = 0xf0 then 0x90 ≤ second && second ≤ 0xbf
  else if first = 0xf4 then 0x80 ≤ second && second ≤ 0x8f
  else isContinuation second

-- The low six bits of a continuation.
def payload (b : UInt8) : Nat :=
  b.toNat % 64

-- A character from its first byte, and how many bytes it takes of those that follow.
def decodeChar (first : UInt8) (rest : List UInt8) : Char × Nat :=
  let lead := first.toNat
  if lead < 0x80 then (.ofNat lead, 0)
  else if lead < 0xc2 then (replacement, 0)
  else if lead < 0xe0 then
    match rest with
    | b :: _ =>
      if isContinuation b then (.ofNat (lead % 32 * 64 + payload b), 1) else (replacement, 0)
    | [] => (replacement, 0)
  else if lead < 0xf0 then
    match rest with
    | b :: c :: _ =>
      if !isSecond first b then (replacement, 0)
      else if isContinuation c then (.ofNat ((lead % 16 * 64 + payload b) * 64 + payload c), 2)
      else (replacement, 1)
    | [b] => (replacement, if isSecond first b then 1 else 0)
    | [] => (replacement, 0)
  else if lead < 0xf5 then
    match rest with
    | b :: c :: d :: _ =>
      if !isSecond first b then (replacement, 0)
      else if !isContinuation c then (replacement, 1)
      else if isContinuation d then
        (.ofNat (((lead % 8 * 64 + payload b) * 64 + payload c) * 64 + payload d), 3)
      else (replacement, 2)
    | [b, c] =>
      if !isSecond first b then (replacement, 0)
      else (replacement, if isContinuation c then 2 else 1)
    | [b] => (replacement, if isSecond first b then 1 else 0)
    | [] => (replacement, 0)
  else (replacement, 0)

def decode : List UInt8 → List Char
  | [] => []
  | b :: rest =>
    let (c, taken) := decodeChar b rest
    c :: decode (rest.drop taken)
  termination_by bytes => bytes.length
  decreasing_by simp only [List.length_drop, List.length_cons]; omega

end TextCharts.Text
