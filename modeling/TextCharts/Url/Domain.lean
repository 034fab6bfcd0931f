import TextCharts.Text.Case
import TextCharts.Text.Printable
import TextCharts.Text.Split
import TextCharts.Url.Punycode

namespace TextCharts.Url.Domain

-- Characters that a name may never hold.
def isForbidden (c : Char) : Bool :=
  c.toNat ≤ 0x20 || c.toNat == 0x7f ||
    ['%', '#', '/', ':', '<', '>', '?', '@', '[', '\\', ']', '^', '|'].contains c

-- Characters that count as absent.
def isIgnored (c : Char) : Bool :=
  let n := c.toNat
  n == 0xad || n == 0x200b || n == 0x2060 || n == 0xfeff || (0xfe00 ≤ n && n ≤ 0xfe0f)

-- The form of a character in names.
def mapChar (c : Char) : Char :=
  let n := c.toNat
  if n == 0x3002 || n == 0xff0e || n == 0xff61 then '.'
  else if n == 0x3000 then ' '
  else if 0xff01 ≤ n && n ≤ 0xff5e then (Char.ofNat (n - 0xfee0)).toLower
  else Text.lower c

def mapText (text : List Char) : List Char :=
  (text.filter (!isIgnored ·)).map mapChar

def isAscii (text : List Char) : Bool :=
  text.all (·.toNat < 128)

-- Characters that stand for what could not be read or shown.
def isSubstitute (c : Char) : Bool :=
  c.toNat == 0xfffc || c.toNat == 0xfffd

def mark : List Char :=
  ['x', 'n', '-', '-']

-- Whether a label beyond ASCII is in its final form.
def isSettled (label : List Char) : Bool :=
  mapText label == label && !mark.isPrefixOf label &&
    label.all (fun c => c.toNat < 128 || !(Text.inRanges Text.shapeless c || isSubstitute c)) &&
    match label with
    | [] => false
    | c :: _ => !Text.inRanges Text.extenders c

def labelToAscii? (label : List Char) : Option (List Char) :=
  if isAscii label then
    if mark.isPrefixOf label then
      match Punycode.decode? (label.drop mark.length) with
      | none => none
      | some name => if !isAscii name && isSettled name then some label else none
    else some label
  else if isSettled label then some (mark ++ Punycode.encode label)
  else none

def toAscii? (text : List Char) : Option (List Char) := do
  let labels ← (Text.splitOn '.' (mapText text)).mapM labelToAscii?
  let name := List.intercalate ['.'] labels
  if name.any isForbidden then none else some name

end TextCharts.Url.Domain
