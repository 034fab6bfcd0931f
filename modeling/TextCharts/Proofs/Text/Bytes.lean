import Mathlib.Data.List.Basic

namespace TextCharts.Text

-- A text as it is stored.
def bytes (s : String) : List UInt8 :=
  s.toByteArray.data.toList

variable {c d : Char} {s t : String} {text text' : List Char} {rest rest' : List UInt8} {m n : Nat}

theorem bytes_eq : bytes s = s.toList.flatMap String.utf8EncodeChar := by
  rw [bytes, ← String.utf8Encode_toList, List.utf8Encode]
  simp

theorem ofNat_cons_lt_iff (hm : m < 256) (hn : n < 256) :
    UInt8.ofNat m :: rest < UInt8.ofNat n :: rest' ↔ m < n ∨ m = n ∧ rest < rest' := by
  rw [List.cons_lt_cons_iff, UInt8.lt_iff_toNat_lt, ← UInt8.toNat_inj, UInt8.toNat_ofNat',
    UInt8.toNat_ofNat', Nat.mod_eq_of_lt hm, Nat.mod_eq_of_lt hn]

-- The codes of different characters differ in a byte, whatever follows them.
theorem utf8EncodeChar_append_lt (lt : c < d) :
    String.utf8EncodeChar c ++ rest < String.utf8EncodeChar d ++ rest' := by
  have lt : c.val.toNat < d.val.toNat := lt
  have bound : d.val.toNat < 0x110000 := by
    have valid := d.valid
    simp only [UInt32.isValidChar, Nat.isValidChar] at valid
    omega
  -- Each byte after the first one holds six bits.
  have two (m : Nat) : m / 4096 = m / 64 / 64 := by omega
  have three (m : Nat) : m / 262144 = m / 64 / 64 / 64 := by omega
  simp only [String.utf8EncodeChar, two, three]
  repeat' split
  all_goals
    simp (disch := omega) only [List.cons_append, List.nil_append, ofNat_cons_lt_iff]
    omega

theorem flatMap_lt_of_lt (lt : text < text') :
    text.flatMap String.utf8EncodeChar < text'.flatMap String.utf8EncodeChar := by
  induction lt with
  | @nil c rest =>
    have ⟨_, _, code⟩ := List.exists_cons_of_ne_nil (@String.utf8EncodeChar_ne_nil c)
    rw [List.flatMap_cons, code]
    exact .nil
  | rel lt      => exact utf8EncodeChar_append_lt lt
  | cons _ hi   => exact List.append_left_lt hi

theorem bytes_lt_of_lt (lt : s < t) : bytes s < bytes t := by
  rw [bytes_eq, bytes_eq]
  exact flatMap_lt_of_lt (String.lt_iff.mp lt)

end TextCharts.Text
