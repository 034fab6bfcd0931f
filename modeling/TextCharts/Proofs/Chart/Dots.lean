import Mathlib.Data.Nat.Bitwise
import TextCharts.Chart.Braille

namespace TextCharts.Chart

variable {steps : List (Option Step)} {width height half row : Nat}

-- The half of a character that a half-column is.
def sideOf (half : Nat) : Side :=
  if half % dotsAcross = 0 then .left else .right

-- The bit of a dot in the number of a braille character, the dots of a side counted from the top.
def dotBit : Side → Nat → Nat
  | .left, dot => if dot = 3 then 6 else dot
  | .right, dot => if dot = 3 then 7 else dot + 3

-- Braille characters are numbered from the one without dots.
def HasDot (c : Char) (side : Side) (dot : Nat) : Prop :=
  ∃ bits < 0x100, c.toNat = 0x2800 + bits ∧ bits.testBit (dotBit side dot)

-- A dot is lit in the rows of a graph.
def Lit (rows : List String) (half row : Nat) : Prop :=
  ∃ line c, rows[row / dotsDown]? = some line ∧ line.toList[half / dotsAcross]? = some c ∧
    HasDot c (sideOf half) (row % dotsDown)

theorem mask_testBit (side side' : Side) : ∀ low < dotsDown, ∀ high < dotsDown, ∀ dot < dotsDown,
    (mask side low high).testBit (dotBit side' dot) ↔
      side = side' ∧ low ≤ dot ∧ dot ≤ high := by
  cases side <;> cases side' <;> decide

theorem mask_lt {side : Side} {low high : Nat} : mask side low high < 0x100 := by
  fun_cases mask side low high <;> decide

theorem stepMask_testBit {s : Step} {side side' : Side} {top dot : Nat} (hd : dot < dotsDown) :
    (s.mask side top).testBit (dotBit side' dot) ↔
      side = side' ∧ s.top ≤ top + dot ∧ top + dot ≤ s.bottom := by
  have four : dotsDown = 4 := rfl
  by_cases h : top ≤ s.bottom ∧ s.top ≤ top + dotsDown - 1
  case pos =>
    have low : max s.top top - top < dotsDown := by omega
    have high : min s.bottom (top + dotsDown - 1) - top < dotsDown := by omega
    simp only [Step.mask, h, decide_true, Bool.and_self, if_true,
      mask_testBit _ _ _ low _ high _ hd]
    refine and_congr_right fun _ => ?_
    omega
  case neg =>
    have none : (decide (top ≤ s.bottom) && decide (s.top ≤ top + dotsDown - 1)) = false := by
      simpa using h
    simp only [Step.mask, none, Bool.false_eq_true, if_false, Nat.zero_testBit, false_iff]
    omega

theorem halfMask_testBit {s : Option Step} {side side' : Side} {top dot : Nat}
    (hd : dot < dotsDown) : (halfMask side top s).testBit (dotBit side' dot) ↔
      side = side' ∧ ∃ t, s = some t ∧ t.top ≤ top + dot ∧ top + dot ≤ t.bottom := by
  cases s with
  | none   => simp [halfMask]
  | some t => simp [halfMask, stepMask_testBit hd]

theorem halfMask_lt {s : Option Step} {side : Side} {top : Nat} : halfMask side top s < 0x100 := by
  cases s with
  | none   => simp [halfMask]
  | some t =>
    simp only [halfMask, Step.mask]
    split
    · exact mask_lt
    · decide

theorem toNat_braille {bits : Nat} (h : bits < 0x100) :
    (Char.ofNat (0x2800 + bits)).toNat = 0x2800 + bits := by
  have valid : (0x2800 + bits).isValidChar := .inl (by omega)
  rw [Char.ofNat, dif_pos valid]
  rfl

theorem hasDot_braille {bits dot : Nat} {side : Side} (h : bits < 0x100) :
    HasDot (.ofNat (0x2800 + bits)) side dot ↔ bits.testBit (dotBit side dot) := by
  constructor
  case mp  =>
    intro ⟨bits', _, hc, dot⟩
    rw [toNat_braille h] at hc
    exact (Nat.add_left_cancel hc) ▸ dot
  case mpr => exact fun dot => ⟨bits, h, toNat_braille h, dot⟩

-- The step of a column on one of its sides.
def onSide (column : Option Step × Option Step) : Side → Option Step
  | .left => column.1
  | .right => column.2

-- A character has the dots that the two steps of its column cover.
theorem hasDot_glyph {column : Option Step × Option Step} {side : Side} {dot : Nat}
    (hd : dot < dotsDown) : HasDot (glyph row column) side dot ↔
      ∃ s, onSide column side = some s ∧
        s.top ≤ row * dotsDown + dot ∧ row * dotsDown + dot ≤ s.bottom := by
  have lt : halfMask .left (row * dotsDown) column.1 ||| halfMask .right (row * dotsDown) column.2 <
      0x100 := Nat.or_lt_two_pow (n := 8) halfMask_lt halfMask_lt
  rw [glyph, hasDot_braille lt, Nat.testBit_or, Bool.or_eq_true, halfMask_testBit hd,
    halfMask_testBit hd]
  cases side <;> simp [onSide]

-- The steps of a column; there is none after the last one of a graph.
def pairAt (steps : List (Option Step)) (col : Nat) : Option Step × Option Step :=
  (steps[2 * col]?.join, steps[2 * col + 1]?.join)

theorem columns_getElem? {width col : Nat} :
    (columns width steps)[col]? = if col < width then some (pairAt steps col) else none := by
  induction width, steps using columns.induct generalizing col with
  | case1 steps                => simp [columns]
  | case2 n hi                 => cases col <;> simp [columns, hi, pairAt]
  | case3 n left hi            => cases col <;> simp [columns, hi, pairAt]
  | case4 n left right rest hi =>
    cases col with
    | zero     => simp [columns, pairAt]
    | succ col => simp [columns, hi, pairAt, Nat.mul_add]

theorem onSide_pairAt :
    onSide (pairAt steps (half / dotsAcross)) (sideOf half) = steps[half]?.join := by
  have hdiv : 2 * (half / dotsAcross) + half % dotsAcross = half := Nat.div_add_mod half 2
  have hmod : half % dotsAcross < 2 := Nat.mod_lt half (by decide)
  by_cases h : half % dotsAcross = 0
  case pos =>
    have even : 2 * (half / dotsAcross) = half := by omega
    simp [sideOf, h, onSide, pairAt, even]
  case neg =>
    have odd : 2 * (half / dotsAcross) + 1 = half := by omega
    simp [sideOf, h, onSide, pairAt, odd]

theorem encode_getElem? {line : String} :
    (encode steps width height)[row]? = some line ↔
      row < height ∧ line = .ofList ((columns width steps).map (glyph row)) := by
  by_cases h : row < height
  case pos => simp [encode, h, eq_comm]
  case neg => simp [encode, h]

theorem lit_encode : Lit (encode steps width height) half row ↔
    half < width * dotsAcross ∧ row < height * dotsDown ∧
      ∃ s, steps[half]? = some (some s) ∧ s.top ≤ row ∧ row ≤ s.bottom := by
  have hd : row % dotsDown < dotsDown := Nat.mod_lt _ (by decide)
  have hrow : row / dotsDown < height ↔ row < height * dotsDown := Nat.div_lt_iff_lt_mul (by decide)
  have hhalf : half / dotsAcross < width ↔ half < width * dotsAcross :=
    Nat.div_lt_iff_lt_mul (by decide)
  have hdot : HasDot (glyph (row / dotsDown) (pairAt steps (half / dotsAcross))) (sideOf half)
      (row % dotsDown) ↔ ∃ s, steps[half]? = some (some s) ∧ s.top ≤ row ∧ row ≤ s.bottom := by
    rw [hasDot_glyph hd, onSide_pairAt, Nat.div_add_mod']
    simp [Option.join_eq_some_iff]
  rw [← hrow, ← hhalf, ← hdot]
  simp only [Lit, encode_getElem?]
  constructor
  case mp  =>
    intro ⟨_, c, ⟨high, rfl⟩, hc, dot⟩
    simp only [String.toList_ofList, List.getElem?_map, columns_getElem?] at hc
    split at hc
    case isTrue wide  => exact ⟨wide, high, Option.some.inj hc ▸ dot⟩
    case isFalse      => contradiction
  case mpr =>
    intro ⟨wide, high, dot⟩
    exact ⟨_, _, ⟨high, rfl⟩, by simp [columns_getElem?, wide], dot⟩

end TextCharts.Chart
