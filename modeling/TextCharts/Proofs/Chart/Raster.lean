import Mathlib.Data.List.Range
import TextCharts.Proofs.Chart.Dots

namespace TextCharts.Chart

-- The numbers of the single dots of a side, from the top.
def dotMasks : Side → List Nat
  | .left  => [0x01, 0x02, 0x04, 0x40]
  | .right => [0x08, 0x10, 0x20, 0x80]

def showsDot (c : Char) (side : Side) (dot : Nat) : Bool :=
  (dotMasks side)[dot]?.any (c.toNat &&& · != 0)

-- The half-column that a side of a column is.
def halfOf (col : Nat) : Side → Nat
  | .left  => 2 * col
  | .right => 2 * col + 1

-- The step of a half-column reaches over a row.
def Covers (steps : List (Option Step)) (half row : Nat) : Prop :=
  ∃ s, steps[half]? = some (some s) ∧ s.top ≤ row ∧ row ≤ s.bottom

variable {steps : List (Option Step)} {width height half row col dot bits : Nat} {side : Side}

theorem covers_iff :
    (steps[half]?.join.any fun s => s.top ≤ row && row ≤ s.bottom) = true ↔
      Covers steps half row := by
  simp [Covers, Option.any_eq_true, Option.join_eq_some_iff]

instance : Decidable (Covers steps half row) :=
  decidable_of_iff _ covers_iff

-- What steps cover of a graph, by the rows of its dots.
def raster (steps : List (Option Step)) (width height : Nat) : List (List Bool) :=
  (List.range (height * dotsDown)).map fun row =>
    (List.range (width * dotsAcross)).map fun half => decide (Covers steps half row)

-- The dots of characters, by the rows of dots.
def decode (rows : List String) : List (List Bool) :=
  rows.flatMap fun line => (List.range dotsDown).map fun dot =>
    line.toList.flatMap fun c => [showsDot c .left dot, showsDot c .right dot]

theorem dotMasks_getElem? :
    ∀ dot < dotsDown, (dotMasks side)[dot]? = some (2 ^ dotBit side dot) := by
  cases side <;> decide

theorem dotBit_lt : ∀ dot < dotsDown, dotBit side dot < 8 := by
  cases side <;> decide

-- The number of the first braille character has none of the bits of the dots.
theorem showsDot_iff (hd : dot < dotsDown) (lt : bits < 0x100) :
    showsDot (.ofNat (0x2800 + bits)) side dot = true ↔
      HasDot (.ofNat (0x2800 + bits)) side dot := by
  have low : (2 ^ 8 * 0x28 + bits).testBit (dotBit side dot) = bits.testBit (dotBit side dot) := by
    rw [Nat.testBit_two_pow_mul_add _ lt, if_pos (dotBit_lt dot hd)]
  have masked : (0x2800 + bits) &&& 2 ^ dotBit side dot ≠ 0 ↔
      bits.testBit (dotBit side dot) = true := by
    rw [← low, Nat.and_two_pow]
    cases (2 ^ 8 * 0x28 + bits).testBit (dotBit side dot) <;> simp
  simp only [showsDot, dotMasks_getElem? dot hd, Option.any_some, toNat_braille lt, bne_iff_ne,
    masked, hasDot_braille lt]

theorem glyph_eq (row : Nat) (column : Option Step × Option Step) :
    ∃ bits < 0x100, glyph row column = .ofNat (0x2800 + bits) :=
  ⟨_, Nat.or_lt_two_pow (n := 8) halfMask_lt halfMask_lt, rfl⟩

theorem onSide_pairAt_eq : onSide (pairAt steps col) side = steps[halfOf col side]?.join := by
  cases side <;> rfl

-- The character of a column shows what the steps of its two half-columns cover.
theorem showsDot_glyph (hd : dot < dotsDown) :
    showsDot (glyph row (pairAt steps col)) side dot = true ↔
      Covers steps (halfOf col side) (row * dotsDown + dot) := by
  have ⟨bits, lt, hg⟩ := glyph_eq row (pairAt steps col)
  rw [hg, showsDot_iff hd lt, ← hg, hasDot_glyph hd, onSide_pairAt_eq]
  simp only [Covers, Option.join_eq_some_iff]

theorem columns_eq : columns width steps = (List.range width).map (pairAt steps) := by
  refine List.ext_getElem? fun col => ?_
  by_cases h : col < width
  case pos => simp [columns_getElem?, h]
  case neg => simp [columns_getElem?, h]

-- The characters of a row of a graph.
def lineOf (steps : List (Option Step)) (width row : Nat) : String :=
  .ofList ((List.range width).map fun col => glyph row (pairAt steps col))

theorem encode_eq : encode steps width height = (List.range height).map (lineOf steps width) := by
  simp [encode, columns_eq, lineOf, Function.comp_def]

theorem range_mul (n k : Nat) :
    List.range (n * k) = (List.range n).flatMap fun i => (List.range k).map (i * k + ·) := by
  induction n with
  | zero      => simp
  | succ n hi => rw [Nat.succ_mul, List.range_add, hi, List.range_succ]; simp

-- A row of dots, read from the characters.
theorem decode_lineOf (hd : dot < dotsDown) :
    ((lineOf steps width row).toList.flatMap fun c =>
        [showsDot c .left dot, showsDot c .right dot]) =
      (List.range (width * dotsAcross)).map fun half =>
        decide (Covers steps half (row * dotsDown + dot)) := by
  have shown (col : Nat) (side : Side) : showsDot (glyph row (pairAt steps col)) side dot =
      decide (Covers steps (halfOf col side) (row * dotsDown + dot)) := by
    rw [Bool.eq_iff_iff, showsDot_glyph hd, decide_eq_true_iff]
  have halves (col : Nat) : (List.range dotsAcross).map (col * dotsAcross + ·) =
      [halfOf col .left, halfOf col .right] := by
    simp [dotsAcross, halfOf, List.range_succ, Nat.mul_comm]
  simp [range_mul, List.map_flatMap, List.flatMap_map, halves, lineOf, shown]

theorem decode_encode : decode (encode steps width height) = raster steps width height := by
  rw [raster, range_mul height, List.map_flatMap, encode_eq, decode, List.flatMap_map]
  refine List.flatMap_congr fun row _ => ?_
  rw [List.map_map]
  exact List.map_congr_left fun dot mem => decode_lineOf (List.mem_range.mp mem)

-- What the rows of characters are that show a graph: as many as there are, as wide as it is, and of
-- braille characters whose dots are those that the steps cover.
structure Rasters (steps : List (Option Step)) (width height : Nat) (rows : List String) :
    Prop where
  tall    : rows.length = height
  wide    : ∀ line ∈ rows, line.length = width
  braille : ∀ line ∈ rows, ∀ c ∈ line.toList, 0x2800 ≤ c.toNat ∧ c.toNat ≤ 0x28ff
  dots    : ∀ row < height, ∀ col < width, ∃ line c,
    rows[row]? = some line ∧ line.toList[col]? = some c ∧
      ∀ side, ∀ dot < 4, showsDot c side dot = true ↔ Covers steps (halfOf col side) (4 * row + dot)
  decoded : decode rows = raster steps width height

theorem encode_rasters (steps : List (Option Step)) (width height : Nat) :
    Rasters steps width height (encode steps width height) where
  tall    := by simp [encode]
  wide    := by simp [encode_eq, lineOf]
  braille := by
    intro line mem c mem'
    obtain ⟨row, _, rfl⟩ := List.mem_map.mp (encode_eq ▸ mem)
    rw [lineOf, String.toList_ofList] at mem'
    obtain ⟨col, _, rfl⟩ := List.mem_map.mp mem'
    obtain ⟨bits, lt, hg⟩ := glyph_eq row (pairAt steps col)
    rw [hg, toNat_braille lt]
    omega
  dots    := by
    intro row high col narrow
    refine ⟨lineOf steps width row, glyph row (pairAt steps col), ?_, ?_, fun side dot hd => ?_⟩
    · simp [encode_eq, high]
    · simp [lineOf, narrow]
    · rw [Nat.mul_comm 4]
      exact showsDot_glyph hd
  decoded := decode_encode

-- One step goes over from a row to the next, and one is upside down.
example : encode [some ⟨2, 5⟩, some ⟨3, 1⟩] 1 2 = ["⡄", "⠃"] := by
  decide

end TextCharts.Chart
