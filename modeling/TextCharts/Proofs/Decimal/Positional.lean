import TextCharts.Decimal.Layout
import TextCharts.Proofs.Decimal.Shortest
import TextCharts.Proofs.Double.Scientific
import TextCharts.Table.Number

namespace TextCharts.Decimal

open Double (Returns)

variable {text rest whole fraction : List Char} {q : ℚ} {negative : Bool}

-- Digits, perhaps with a point between them, that stand for a number.
structure Spells (text whole fraction : List Char) (q : ℚ) : Prop where
  eq       : text = whole ++ if fraction = [] then [] else '.' :: fraction
  nonempty : whole ≠ []
  digits   : ∀ c ∈ whole ++ fraction, c.isDigit
  value    : (Nat.ofDigitChars 10 (whole ++ fraction) 0 : ℚ) * 10 ^ (-fraction.length : ℤ) = q

theorem isDigit_of_mem_zeros {n : ℕ} : ∀ c ∈ zeros n, c.isDigit := by
  intro c mem
  rw [List.eq_of_mem_replicate mem]
  rfl

theorem isDigit_of_mem_digitsOf {n : ℕ} : ∀ c ∈ digitsOf n, c.isDigit :=
  fun _ mem => Nat.isDigit_of_mem_toDigits (by norm_num) (by norm_num) mem

theorem ofDigitChars_digitsOf (n : ℕ) : Nat.ofDigitChars 10 (digitsOf n) 0 = n :=
  Nat.ofDigitChars_ten_toDigits

-- Zeros at the end, where the numeral is a whole number of large units.
theorem spells_whole (n : Numeral) (whole : 0 ≤ n.exponent) :
    Spells (digitsOf n.coefficient ++ zeros n.exponent.toNat)
      (digitsOf n.coefficient ++ zeros n.exponent.toNat) [] n.value where
  eq       := by rw [if_pos rfl, List.append_nil]
  nonempty := List.append_ne_nil_of_left_ne_nil Nat.toDigits_ne_nil _
  digits   := by
    rw [List.append_nil]
    exact fun c mem => (List.mem_append.mp mem).elim (isDigit_of_mem_digitsOf c)
      (isDigit_of_mem_zeros c)
  value    := by
    rw [List.append_nil, Nat.ofDigitChars_append, ofDigitChars_digitsOf, zeros,
      Nat.ofDigitChars_replicate_zero, Numeral.value, List.length_nil, Nat.cast_zero, neg_zero,
      zpow_zero, mul_one, Nat.cast_mul, Nat.cast_pow, Nat.cast_ofNat, ← zpow_natCast,
      Int.toNat_of_nonneg whole, mul_comm]

-- A point among the digits.
theorem spells_pointed (n : Numeral) (parts : n.exponent < 0) (inside : 0 < n.point) :
    Spells ((digitsOf n.coefficient).take n.point.toNat ++
        '.' :: (digitsOf n.coefficient).drop n.point.toNat)
      ((digitsOf n.coefficient).take n.point.toNat) ((digitsOf n.coefficient).drop n.point.toNat)
      n.value := by
  have length : (((digitsOf n.coefficient).drop n.point.toNat).length : ℤ) = -n.exponent := by
    rw [List.length_drop]
    unfold Numeral.point at inside ⊢
    omega
  have some : (digitsOf n.coefficient).drop n.point.toNat ≠ [] := by
    intro none
    rw [none, List.length_nil, Nat.cast_zero] at length
    omega
  refine ⟨by rw [if_neg some], ?nonempty, ?digits, ?value⟩
  case nonempty =>
    rw [Ne, List.take_eq_nil_iff, not_or]
    exact ⟨by omega, Nat.toDigits_ne_nil⟩
  case digits =>
    rw [List.take_append_drop]
    exact isDigit_of_mem_digitsOf
  case value =>
    rw [List.take_append_drop, ofDigitChars_digitsOf, length, neg_neg, Numeral.value]

-- Zeros between the point and the digits.
theorem spells_small (n : Numeral) (small : n.point ≤ 0) :
    Spells ('0' :: '.' :: zeros (-n.point).toNat ++ digitsOf n.coefficient) ['0']
      (zeros (-n.point).toNat ++ digitsOf n.coefficient) n.value := by
  have some : zeros (-n.point).toNat ++ digitsOf n.coefficient ≠ [] :=
    List.append_ne_nil_of_right_ne_nil _ Nat.toDigits_ne_nil
  have length : ((zeros (-n.point).toNat ++ digitsOf n.coefficient).length : ℤ) = -n.exponent := by
    rw [List.length_append, zeros, List.length_replicate]
    unfold Numeral.point at small ⊢
    omega
  refine ⟨by rw [if_neg some]; rfl, List.cons_ne_nil _ _, ?digits, ?value⟩
  case digits =>
    intro c mem
    rw [List.mem_append, List.mem_singleton, List.mem_append] at mem
    rcases mem with rfl | mem | mem
    · rfl
    · exact isDigit_of_mem_zeros c mem
    · exact isDigit_of_mem_digitsOf c mem
  case value =>
    rw [length, neg_neg, Numeral.value, List.singleton_append, Nat.ofDigitChars_cons,
      Nat.ofDigitChars_append, zeros]
    change (Nat.ofDigitChars 10 _ (Nat.ofDigitChars 10 _ 0) : ℚ) * _ = _
    rw [Nat.ofDigitChars_replicate_zero, mul_zero, ofDigitChars_digitsOf]

theorem positional_spells (n : Numeral) :
    ∃ whole fraction, Spells n.positional whole fraction n.value := by
  unfold Numeral.positional
  dsimp only
  split
  case isTrue whole => exact ⟨_, _, spells_whole n whole⟩
  case isFalse parts =>
    split
    case isTrue inside => exact ⟨_, _, spells_pointed n (not_le.mp parts) inside⟩
    case isFalse small => exact ⟨_, _, spells_small n (not_lt.mp small)⟩

theorem value_eq (digits : List Char) : Numeric.value digits = Nat.ofDigitChars 10 digits 0 := by
  rw [Numeric.value, Nat.ofDigitChars_eq_foldl]
  simp only [mul_comm]

-- What is read from digits and a point.
def magnitude (whole fraction : List Char) : Float :=
  Float.ofScientific (Numeric.value (whole ++ fraction)) (-(fraction.length : ℤ) < 0)
    (-(fraction.length : ℤ)).natAbs

theorem Spells.returns (h : Spells text whole fraction q) :
    Returns (magnitude whole fraction) q := by
  have power : Double.exponent (-(fraction.length : ℤ) < 0) (-(fraction.length : ℤ)).natAbs =
      -fraction.length := by
    unfold Double.exponent
    split
    case isTrue down => omega
    case isFalse up  =>
      rw [decide_eq_true_eq] at up
      omega
  have returns := Double.ofScientific_returns (Numeric.value (whole ++ fraction))
    (-(fraction.length : ℤ) < 0) (-(fraction.length : ℤ)).natAbs
  rw [power, value_eq] at returns
  rw [magnitude, value_eq]
  exact h.value ▸ returns

theorem Spells.decimal?_eq (h : Spells rest whole fraction q)
    (sign : Numeric.sign text = (negative, rest)) : Numeric.decimal? text =
      some (if negative then -magnitude whole fraction else magnitude whole fraction) := by
  have front : ∀ c ∈ whole, c.isDigit := fun c mem => h.digits c (List.mem_append_left _ mem)
  have back : ∀ c ∈ fraction, c.isDigit := fun c mem => h.digits c (List.mem_append_right _ mem)
  have taken : rest.takeWhile Char.isDigit = whole := by
    rw [h.eq, List.takeWhile_append_of_pos front]
    split <;> simp
  have left : rest.dropWhile Char.isDigit = if fraction = [] then [] else '.' :: fraction := by
    rw [h.eq, List.dropWhile_append_of_pos front]
    split <;> rfl
  have nonempty : whole.isEmpty = false := by
    rw [List.isEmpty_eq_false_iff]
    exact h.nonempty
  unfold Numeric.decimal?
  rw [sign]
  dsimp only
  rw [taken, left, nonempty]
  by_cases none : fraction = []
  case pos =>
    rw [if_pos none, none]
    rfl
  case neg =>
    rw [if_neg none]
    simp only
    rw [List.takeWhile_eq_self_iff.mpr back, List.dropWhile_eq_nil_iff.mpr back]
    simp [Numeric.exponent?, magnitude]

end TextCharts.Decimal
