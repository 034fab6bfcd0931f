/-!
Blank characters and trimming. Blank means white space in the sense of Unicode: 25 characters,
among them the no-break space and the ideographic space, but neither the zero-width space nor the
byte order mark.
-/

namespace TextCharts.Text

def isBlank (c : Char) : Bool :=
  let n := c.toNat
  (9 ≤ n && n ≤ 13) || n == 0x20 || n == 0x85 || n == 0xa0 || n == 0x1680 ||
    (0x2000 ≤ n && n ≤ 0x200a) || n == 0x2028 || n == 0x2029 || n == 0x202f || n == 0x205f ||
    n == 0x3000

-- Drops the blanks on both sides.
def trim (s : List Char) : List Char :=
  ((s.dropWhile isBlank).reverse.dropWhile isBlank).reverse

@[simp]
theorem trim_nil : trim [] = [] :=
  rfl

-- A text without its surrounding blanks.
def strip (s : String) : String :=
  .ofList (trim s.toList)

-- Lowers the letters `A` to `Z` and keeps everything else.
def lowerAscii (s : String) : String :=
  .ofList (s.toList.map Char.toLower)

end TextCharts.Text
