import EspHttpControl.CText.Strtok

/-! Filling a text up to whole blocks.
The filling is a number of bytes that all have this number as their value, so that the last byte
of a filled text says how much to take away.
-/

namespace CText

def pad (k : Nat) (s : Str) : Str := s ++ List.replicate k (Char.ofNat k)

/-- PKCS #7: at least one byte, and at most a block. -/
def pkcs7 (block : Nat) (s : Str) : Str := pad (block - s.length % block) s

/-- What a filled text was made from. -/
def unpad (block : Nat) (t : Str) : Option Str :=
  match t.getLast? with
  | none => none
  | some c =>
    let s := t.take (t.length - c.toNat)
    if 1 ≤ c.toNat ∧ c.toNat ≤ block ∧ t = pad c.toNat s then some s else none

/-- The second text is the first one with a filling, in whole blocks. -/
def Padded (block : Nat) (s t : Str) : Prop :=
  ∃ k, 1 ≤ k ∧ k ≤ block ∧ t = pad k s ∧ block ∣ t.length

variable {block k : Nat} {s t : Str}

@[simp]
theorem length_pad (k : Nat) (s : Str) : (pad k s).length = s.length + k := by
  simp [pad]

theorem toNat_ofNat_byte (byte : k < 256) : (Char.ofNat k).toNat = k := by
  have valid : k.isValidChar := Or.inl (Nat.lt_trans byte (by decide))
  rw [Char.ofNat, dif_pos valid]
  rfl

theorem getLast?_pad (some' : 1 ≤ k) (s : Str) : (pad k s).getLast? = some (Char.ofNat k) := by
  rw [pad, List.getLast?_append, List.getLast?_replicate, if_neg (by omega)]
  rfl

theorem unpad_pad (some' : 1 ≤ k) (most : k ≤ block) (byte : block < 256) (s : Str)
    : unpad block (pad k s) = some s := by
  have value : (Char.ofNat k).toNat = k := toNat_ofNat_byte (by omega)
  have front : (pad k s).take ((pad k s).length - k) = s := by
    rw [length_pad, Nat.add_sub_cancel, pad, List.take_left']
    rfl
  simp only [unpad, getLast?_pad some', value, front, some', most, and_self, ↓reduceIte]

/-- The length decides how much filling there is. -/
theorem padded_iff (positive : 0 < block) : Padded block s t ↔ t = pkcs7 block s := by
  have below : s.length % block < block := Nat.mod_lt _ positive
  have parts := Nat.div_add_mod s.length block
  constructor
  · rintro ⟨k, some', most, rfl, whole⟩
    obtain ⟨q, length⟩ := whole
    rw [length_pad] at length
    -- the blocks of the filled text are one more than the whole blocks of the text
    have next : q = s.length / block + 1 := by
      rcases Nat.lt_trichotomy q (s.length / block + 1) with fewer | same | more
      · have few := Nat.mul_le_mul_left block (Nat.le_of_lt_succ fewer)
        omega
      · exact same
      · have many := Nat.mul_le_mul_left block (Nat.succ_le_of_lt more)
        rw [Nat.mul_succ, Nat.mul_succ] at many
        omega
    rw [next, Nat.mul_succ] at length
    have same : k = block - s.length % block := by
      omega
    rw [pkcs7, ← same]
  · rintro rfl
    refine ⟨block - s.length % block, by omega, by omega, rfl, s.length / block + 1, ?_⟩
    rw [pkcs7, length_pad, Nat.mul_add]
    omega

theorem unpad_of_padded (byte : block < 256) (padded : Padded block s t)
    : unpad block t = some s := by
  obtain ⟨k, some', most, rfl, -⟩ := padded
  exact unpad_pad some' most byte s

end CText
