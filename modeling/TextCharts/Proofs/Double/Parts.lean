import Mathlib
import TextCharts.Decimal.Double
import TextCharts.Proofs.Double.Value

namespace TextCharts.Double

open Decimal (Parts)
open Float.Model (Format UnpackedFloat)
open Float.Model.UnpackedFloat (Sign unpackExponent unpackMantissa unpackSign)

variable {x y : Float} {negative : Bool} {m n : ℕ} {e i : ℤ} {s t : Sign}

def isNegative : Sign → Bool
  | .positive => false
  | .negative => true

-- Zero is written like the smallest numbers.
def parts : UnpackedFloat → Parts
  | .notANumber     => .nan
  | .infinity s     => .infinite (isNegative s)
  | .zero s         => .finite (isNegative s) 0 (-1074)
  | .finite s m e _ => .finite (isNegative s) m e

theorem parts_assemble (s : Sign) (exponent : BitVec 11) (fraction : BitVec 52) :
    parts (assemble s exponent fraction) =
      if exponent.toNat = 2047 then
        if fraction.toNat = 0 then .infinite (isNegative s) else .nan
      else if exponent.toNat = 0 then .finite (isNegative s) fraction.toNat (-1074)
      else .finite (isNegative s) (2 ^ 52 + fraction.toNat) (exponent.toNat - 1075) := by
  have none : fraction = 0#52 ↔ fraction.toNat = 0 := BitVec.toNat_eq
  have least : exponent = 0#11 ↔ exponent.toNat = 0 := BitVec.toNat_eq
  have largest : exponent = -1#11 ↔ exponent.toNat = 2047 := BitVec.toNat_eq
  rw [assemble]
  by_cases hl : exponent.toNat = 2047
  case pos =>
    rw [if_pos (largest.mpr hl), if_pos hl]
    by_cases hn : fraction.toNat = 0
    case pos => rw [if_pos (none.mpr hn), if_pos hn]; rfl
    case neg => rw [if_neg (mt none.mp hn), if_neg hn]; rfl
  case neg =>
    rw [if_neg (mt largest.mp hl), if_neg hl]
    by_cases h0 : exponent.toNat = 0
    case pos =>
      rw [if_pos (least.mpr h0), if_pos h0]
      by_cases hn : fraction.toNat = 0
      case pos => rw [dif_pos (none.mpr hn), hn]; rfl
      case neg =>
        rw [dif_neg (mt none.mp hn), parts, h0]
        rfl
    case neg =>
      rw [if_neg (mt least.mp h0), if_neg h0, parts, implicit_toNat]
      congr 1

theorem isNegative_ofBitVec (b : BitVec 1) :
    isNegative (Sign.ofBitVec b) = (b.toNat == 1) := by
  have cases : b = 0#1 ∨ b = 1#1 := by
    have := b.isLt
    rcases (show b.toNat = 0 ∨ b.toNat = 1 by omega) with h | h
    · exact .inl (BitVec.eq_of_toNat_eq h)
    · exact .inr (BitVec.eq_of_toNat_eq h)
  rcases cases with rfl | rfl <;> rfl

-- The fields of a double are cut out of its bits.
theorem ofDouble_eq (x : Float) : Parts.ofDouble x = parts x.toModel.unpack := by
  let bits := x.toModel.toBits.toBitVec
  have unpacked : x.toModel.unpack = assemble (Sign.ofBitVec (@unpackSign Format.binary64 bits))
      (@unpackExponent Format.binary64 bits) (@unpackMantissa Format.binary64 bits) :=
    unpack_eq bits
  have sign : (@unpackSign Format.binary64 bits).toNat = bits.toNat / 2 ^ 63 % 2 := by
    change (bits.extractLsb' 63 1).toNat = _
    rw [BitVec.extractLsb'_toNat, Nat.shiftRight_eq_div_pow, pow_one]
  have exponent : (@unpackExponent Format.binary64 bits).toNat = bits.toNat / 2 ^ 52 % 2 ^ 11 := by
    change (bits.extractLsb' 52 11).toNat = _
    rw [BitVec.extractLsb'_toNat, Nat.shiftRight_eq_div_pow]
  have fraction : (@unpackMantissa Format.binary64 bits).toNat = bits.toNat % 2 ^ 52 := by
    change (bits.extractLsb' 0 52).toNat = _
    rw [BitVec.extractLsb'_toNat, Nat.shiftRight_zero]
  rw [unpacked, parts_assemble, isNegative_ofBitVec, sign]
  simp only [exponent, fraction]
  rfl

theorem eq_of_unpack (h : x.toModel.unpack = y.toModel.unpack) : x = y := by
  have bits : x.toModel.toBits.toBitVec = y.toModel.toBits.toBitVec :=
    (UnpackedFloat.unpack_inj_of_valid x.toModel.valid y.toModel.valid).mp h
  obtain ⟨⟨⟨_⟩, _⟩⟩ := x
  obtain ⟨⟨⟨_⟩, _⟩⟩ := y
  cases bits
  rfl

-- There is one double that is no number.
theorem eq_of_not_isNumber (hx : ¬IsNumber x) (hy : ¬IsNumber y) : x = y :=
  eq_of_unpack ((not_not.mp hx).trans (not_not.mp hy).symm)

theorem eq_of_magnitude {pos : 0 < m} {pos' : 0 < n} (hm : Normal (.finite s m e pos))
    (hn : Normal (.finite t n i pos')) (same : (m : ℚ) * 2 ^ e = n * 2 ^ i) : e = i ∧ m = n := by
  have order := compare_magnitude hm hn
  rw [same, compare_eq_iff_eq.mpr rfl, Ordering.then_eq_eq] at order
  exact ⟨compare_eq_iff_eq.mp order.1, compare_eq_iff_eq.mp order.2⟩

theorem eq_of_amount {u v : UnpackedFloat} (hu : Normal u) (hv : Normal v) (fu : u.isFinite)
    (fv : v.isFinite) (nonzero : amount u ≠ 0) (same : amount u = amount v) : u = v := by
  cases u with
  | notANumber => contradiction
  | infinity s => contradiction
  | zero s     => exact absurd rfl nonzero
  | finite s m e pos =>
    cases v with
    | notANumber => contradiction
    | infinity t => contradiction
    | zero t     => exact absurd same nonzero
    | finite t n i pos' =>
      cases s <;> cases t
      case positive.positive =>
        have ⟨he, hm⟩ := eq_of_magnitude hu hv same
        exact finite_congr hm he
      case positive.negative =>
        exact absurd same (amount_negative.trans amount_positive).ne'
      case negative.positive =>
        exact absurd same (amount_negative.trans amount_positive).ne
      case negative.negative =>
        have ⟨he, hm⟩ := eq_of_magnitude hu hv (neg_injective same)
        exact finite_congr hm he

-- Only zero has two doubles.
theorem eq_of_value (hx : x.isFinite) (hy : y.isFinite) (nonzero : value x ≠ 0)
    (same : value x = value y) : x = y :=
  eq_of_unpack (eq_of_amount (unpack_normal _) (unpack_normal _) hx hy nonzero same)

-- A finite double has a significand and an exponent, and no other with the same parts.
structure HasParts (x : Float) (negative : Bool) (m : ℕ) (e : ℤ) : Prop where
  finite : x.isFinite
  value  : value x = if negative then -((m : ℚ) * 2 ^ e) else m * 2 ^ e
  few    : m < 2 ^ 53
  low    : -1074 ≤ e
  high   : e ≤ 971
  full   : 2 ^ 52 ≤ m ∨ e = -1074

theorem hasParts_of_ofDouble (h : Parts.ofDouble x = .finite negative m e) :
    HasParts x negative m e := by
  rw [ofDouble_eq] at h
  cases unpacked : x.toModel.unpack with
  | notANumber => rw [unpacked] at h; cases h
  | infinity s => rw [unpacked] at h; cases h
  | zero s     =>
    rw [unpacked] at h
    cases h
    have finite : x.isFinite = true := congrArg UnpackedFloat.isFinite unpacked
    refine ⟨finite, ?_, by norm_num, by norm_num, by norm_num, .inr rfl⟩
    rw [Double.value, unpacked, amount_zero]
    simp
  | finite s m e pos =>
    rw [unpacked] at h
    cases h
    have finite : x.isFinite = true := congrArg UnpackedFloat.isFinite unpacked
    obtain ⟨few, low, high, full⟩ := of_unpack_eq_finite unpacked
    refine ⟨finite, ?_, few, low, high, full⟩
    rw [Double.value, unpacked, amount_finite]
    cases s <;> rfl

theorem exists_hasParts (finite : x.isFinite) :
    ∃ negative m e, Parts.ofDouble x = .finite negative m e := by
  rw [ofDouble_eq]
  have finite : x.toModel.unpack.isFinite := finite
  cases unpacked : x.toModel.unpack with
  | notANumber       => rw [unpacked] at finite; contradiction
  | infinity s       => rw [unpacked] at finite; contradiction
  | zero s           => exact ⟨_, _, _, rfl⟩
  | finite s m e pos => exact ⟨_, _, _, rfl⟩

end TextCharts.Double
