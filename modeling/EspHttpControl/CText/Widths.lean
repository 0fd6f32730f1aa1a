import EspHttpControl.CText.Decimal
import Mathlib.Algebra.GroupWithZero.Nat
import Mathlib.Data.Nat.Log

/-! The lengths of printed numbers and of joined texts.
A buffer is large enough for a text if its length with the terminator is at most its size.
-/

namespace CText

/-- The number of decimal digits of a natural number. -/
def cifras (n : Nat) : Nat := Nat.log 10 n + 1

/-- The width of an integer that `sprintf "%d"` prints. -/
def anchoD (v : Int) : Nat := if v < 0 then cifras v.natAbs + 1 else cifras v.natAbs

/-- The digits are counted by comparing with powers of ten. -/
theorem length_toDigits (n : Nat) : (Nat.toDigits 10 n).length = cifras n := by
  have ten : 1 < 10 := by decide
  have bound (k : Nat) (some' : 0 < k)
      : (Nat.toDigits 10 n).length ≤ k ↔ cifras n ≤ k := by
    rw [Nat.length_toDigits_le_iff ten some', cifras, Nat.succ_le_iff]
    by_cases zero : n = 0
    · have positive : 0 < 10 ^ k := Nat.pow_pos (Nat.zero_lt_of_lt ten)
      simp [zero, some', positive]
    · exact (Nat.log_lt_iff_lt_pow ten zero).symm
  have printed : 0 < (Nat.toDigits 10 n).length := Nat.length_toDigits_pos
  exact Nat.le_antisymm ((bound _ (Nat.succ_pos _)).mpr (Nat.le_refl _))
    ((bound _ printed).mp (Nat.le_refl _))

theorem length_sprintD (v : Int) : (sprintD v).length = anchoD v := by
  cases v with
  | ofNat n => exact length_toDigits n
  | negSucc n =>
      rw [sprintD, List.length_cons, length_toDigits, anchoD, if_pos (Int.negSucc_lt_zero n)]
      rfl

theorem cifras_le {n k : Nat} (some' : 0 < k) (small : n < 10 ^ k) : cifras n ≤ k := by
  rw [← length_toDigits, Nat.length_toDigits_le_iff (by decide) some']
  exact small

/-- Ten digits and a sign are enough for 32 bits. -/
theorem anchoD_le (v : Int32) : anchoD v.toInt ≤ 11 := by
  have low := v.le_toInt
  have high := v.toInt_lt
  have few : cifras v.toInt.natAbs ≤ 10 := cifras_le (by decide) (by omega)
  rw [anchoD]
  split <;> omega

/-- A join is as long as its parts with one separator between two of them. -/
theorem length_intercalate (d : Char) (parts : List Str)
    : ([d].intercalate parts).length = (parts.map List.length).sum + (parts.length - 1) := by
  induction parts with
  | nil => rfl
  | cons part rest ih =>
      cases rest with
      | nil => simp
      | cons next later =>
          rw [List.intercalate_cons_cons, List.length_append, List.length_append, ih]
          simp
          omega

end CText
