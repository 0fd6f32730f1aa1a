import Mathlib.Data.List.Basic

/-! The XOR over a list of words, as a check on messages: it is zero behind its own value, and
one changed word always shows.
-/

namespace Codes

variable {w : Nat}

/-- The XOR of some words. -/
def xorAll (words : List (BitVec w)) : BitVec w := words.foldr (· ^^^ ·) 0#w

@[simp]
theorem xorAll_nil : xorAll ([] : List (BitVec w)) = 0#w := rfl

@[simp]
theorem xorAll_cons (word : BitVec w) (rest : List (BitVec w))
    : xorAll (word :: rest) = word ^^^ xorAll rest :=
  rfl

theorem xorAll_append (first second : List (BitVec w))
    : xorAll (first ++ second) = xorAll first ^^^ xorAll second := by
  induction first with
  | nil => simp
  | cons word rest ih => rw [List.cons_append, xorAll_cons, ih, xorAll_cons, BitVec.xor_assoc]

/-- A running XOR ends at the XOR of its start and of all words. -/
theorem foldl_xor (words : List (BitVec w)) (start : BitVec w)
    : words.foldl (· ^^^ ·) start = start ^^^ xorAll words := by
  induction words generalizing start with
  | nil => simp
  | cons word rest ih => rw [List.foldl_cons, ih, xorAll_cons, BitVec.xor_assoc]

/-- Words that are followed by their XOR have the XOR zero. -/
theorem xorAll_append_xorAll (words : List (BitVec w))
    : xorAll (words ++ [xorAll words]) = 0#w := by
  rw [xorAll_append, xorAll_cons, xorAll_nil, BitVec.xor_zero, BitVec.xor_self]

/-- A changed word changes the XOR by the difference of the two words. -/
theorem xorAll_set {words : List (BitVec w)} {i : Nat} (inside : i < words.length)
    (word : BitVec w)
    : xorAll (words.set i word) = xorAll words ^^^ (words[i] ^^^ word) := by
  induction words generalizing i with
  | nil => exact absurd inside (Nat.not_lt_zero i)
  | cons head rest ih =>
      cases i with
      | zero =>
          calc xorAll (word :: rest)
              = 0#w ^^^ (xorAll rest ^^^ word) := by
                rw [xorAll_cons, BitVec.zero_xor, BitVec.xor_comm]
            _ = (head ^^^ head) ^^^ (xorAll rest ^^^ word) := by rw [BitVec.xor_self]
            _ = (head ^^^ xorAll rest) ^^^ (head ^^^ word) := by ac_rfl
      | succ i =>
          have below : i < rest.length := Nat.lt_of_succ_lt_succ inside
          rw [List.set_cons_succ, xorAll_cons, ih below, xorAll_cons, List.getElem_cons_succ,
            BitVec.xor_assoc]

/-- A message whose XOR is zero no longer has it once one word is changed to another. -/
theorem xorAll_set_ne_zero {words : List (BitVec w)} (closed : xorAll words = 0#w) {i : Nat}
    (inside : i < words.length) {word : BitVec w} (other : word ≠ words[i])
    : xorAll (words.set i word) ≠ 0#w := by
  rw [xorAll_set inside, closed, BitVec.zero_xor]
  intro same
  exact other (BitVec.xor_eq_zero_iff.mp same).symm

end Codes
