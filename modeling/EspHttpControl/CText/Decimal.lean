import EspHttpControl.CText.Strtok
import Mathlib.Algebra.Group.Int.Defs
import Mathlib.Algebra.Group.Nat.Defs

/-! Decimal printing and reading of C integers: `sprintf "%d"`, `atoi` and `strtoul`.
Reading follows the C library on a machine with 32-bit `long`: leading blanks, one sign,
the longest run of digits, and saturation at the ends of the type.
-/

namespace CText

/-- `sprintf(s, "%d", v)`. -/
def sprintD : Int → Str
  | .ofNat n => Nat.toDigits 10 n
  | .negSucc n => '-' :: Nat.toDigits 10 (n + 1)

/-- Division with the remainder rounded to the nearest quotient, ties to the even one. -/
def divRound (a b : Nat) : Nat :=
  if 2 * (a % b) > b ∨ (2 * (a % b) = b ∧ a / b % 2 = 1) then a / b + 1 else a / b

/-- `sprintf(s, "%f", v)` for the float with the given bits: six decimals of its exact value. -/
def sprintF (bits : UInt32) : Str :=
  let sign := if bits.toNat < 2 ^ 31 then [] else ['-']
  let exponent := bits.toNat / 2 ^ 23 % 2 ^ 8
  let fraction := bits.toNat % 2 ^ 23
  if exponent = 255 then
    if fraction = 0 then sign ++ ['i', 'n', 'f'] else ['n', 'a', 'n']
  else
    let mantissa := if exponent = 0 then fraction else fraction + 2 ^ 23
    let scaled := divRound (mantissa * 10 ^ 6 * 2 ^ (max exponent 1)) (2 ^ 150)
    let decimals := Nat.toDigits 10 (scaled % 10 ^ 6)
    sign ++ Nat.toDigits 10 (scaled / 10 ^ 6) ++ '.' :: List.replicate (6 - decimals.length) '0'
      ++ decimals

def isSpace (c : Char) : Bool :=
  [' ', '\t', '\n', Char.ofNat 11, Char.ofNat 12, '\r'].contains c

/-- The value of the longest run of digits at the start of a string. -/
def digitsValue (s : Str) : Nat :=
  Nat.ofDigitChars 10 (s.takeWhile Char.isDigit) 0

/-- Sign and magnitude that `strtol(s, NULL, 10)` reads, before the range is applied. -/
def readSigned (s : Str) : Bool × Nat :=
  match s.dropWhile isSpace with
  | [] => (false, 0)
  | c :: cs =>
    if c = '-' then (true, digitsValue cs)
    else if c = '+' then (false, digitsValue cs)
    else (false, digitsValue (c :: cs))

/-- `atoi(s)`: the signed value, saturated at the ends of `long`. -/
def atoi (s : Str) : Int32 :=
  let (negative, magnitude) := readSigned s
  if negative then Int32.ofInt (max (-2 ^ 31) (-magnitude))
  else Int32.ofInt (min (2 ^ 31 - 1) magnitude)

/-- `strtoul(s, NULL, 10)`: a minus sign negates modulo the type, and a magnitude out of
range gives `ULONG_MAX` with either sign.
-/
def strtoul (s : Str) : UInt32 :=
  let (negative, magnitude) := readSigned s
  if 2 ^ 32 ≤ magnitude then UInt32.ofNat (2 ^ 32 - 1)
  else if negative then -UInt32.ofNat magnitude
  else UInt32.ofNat magnitude

theorem toDigits_isDigit {n : Nat} {c : Char} (member : c ∈ Nat.toDigits 10 n)
    : c.isDigit = true :=
  Nat.isDigit_of_mem_toDigits (by decide) (by decide) member

/-- A printed integer consists of digits and at most a minus sign. -/
theorem sprintD_chars {v : Int} {c : Char} (member : c ∈ sprintD v)
    : c.isDigit = true ∨ c = '-' := by
  cases v with
  | ofNat n => exact Or.inl (toDigits_isDigit member)
  | negSucc n =>
      rcases List.mem_cons.mp member with sign | digit
      · exact Or.inr sign
      · exact Or.inl (toDigits_isDigit digit)

theorem sprintD_ne_nil (v : Int) : sprintD v ≠ [] := by
  cases v with
  | ofNat n => exact Nat.toDigits_ne_nil
  | negSucc n => simp [sprintD]

/-- A separator that is neither a digit nor the minus sign does not occur in a printed
integer.
-/
theorem not_mem_sprintD {c : Char} (v : Int) (digit : c.isDigit = false) (sign : c ≠ '-')
    : c ∉ sprintD v := by
  intro member
  rcases sprintD_chars member with found | found
  · simp [digit] at found
  · exact sign found

/-- A printed float consists of digits, a sign, a point and the letters of `inf` and `nan`. -/
theorem sprintF_chars {bits : UInt32} {c : Char} (member : c ∈ sprintF bits)
    : c.isDigit = true ∨ c ∈ ['-', '.', 'i', 'n', 'f', 'a'] := by
  have zero {k : Nat} (h : c ∈ List.replicate k '0') : c.isDigit = true := by
    rw [(List.mem_replicate.mp h).2]
    rfl
  have signed {p : Prop} [Decidable p] (h : c ∈ if p then [] else ['-']) : c = '-' := by
    split at h
    · simp at h
    · simpa using h
  simp only [sprintF] at member
  split at member
  · split at member
    · rcases List.mem_append.mp member with sign | letter
      · exact Or.inr (by simp [signed sign])
      · exact Or.inr (by simp only [List.mem_cons, List.not_mem_nil, or_false] at *; tauto)
    · exact Or.inr (by simp only [List.mem_cons, List.not_mem_nil, or_false] at *; tauto)
  · simp only [List.mem_append, List.mem_cons] at member
    rcases member with ((sign | whole) | point | pad) | decimal
    · exact Or.inr (by simp [signed sign])
    · exact Or.inl (toDigits_isDigit whole)
    · exact Or.inr (by simp [point])
    · exact Or.inl (zero pad)
    · exact Or.inl (toDigits_isDigit decimal)

theorem digitsValue_toDigits (n : Nat) : digitsValue (Nat.toDigits 10 n) = n := by
  have whole : (Nat.toDigits 10 n).takeWhile Char.isDigit = Nat.toDigits 10 n :=
    List.takeWhile_eq_self_iff.mpr fun _ member => toDigits_isDigit member
  rw [digitsValue, whole, Nat.ofDigitChars_ten_toDigits]

theorem digit_not_special {c : Char} (digit : c.isDigit = true)
    : isSpace c = false ∧ c ≠ '-' ∧ c ≠ '+' := by
  refine ⟨?_, ?_, ?_⟩
  · by_contra blank
    rw [Bool.not_eq_false, isSpace, List.contains_iff_mem] at blank
    simp only [List.mem_cons, List.not_mem_nil, or_false] at blank
    rcases blank with rfl | rfl | rfl | rfl | rfl | rfl <;> cases digit
  · rintro rfl
    cases digit
  · rintro rfl
    cases digit

/-- Digits alone are read as what they say, with no sign. -/
theorem readSigned_digits {s : Str} (nonempty : s ≠ []) (digits : ∀ c ∈ s, c.isDigit = true)
    : readSigned s = (false, digitsValue s) := by
  cases s with
  | nil => exact absurd rfl nonempty
  | cons c cs =>
      obtain ⟨blank, minus, plus⟩ := digit_not_special (digits c (by simp))
      simp only [readSigned, List.dropWhile_cons, blank, Bool.false_eq_true, ↓reduceIte,
        minus, plus]

theorem readSigned_toDigits (n : Nat) : readSigned (Nat.toDigits 10 n) = (false, n) := by
  rw [readSigned_digits Nat.toDigits_ne_nil fun _ member => toDigits_isDigit member,
    digitsValue_toDigits]

/-- Reading a printed integer gives its sign and magnitude back, by cases on the sign. -/
theorem readSigned_sprintD (v : Int) : readSigned (sprintD v) = (decide (v < 0), v.natAbs) := by
  cases v with
  | ofNat n =>
      have positive : ¬Int.ofNat n < 0 := by simp
      simp only [sprintD, readSigned_toDigits, positive, decide_false]
      rfl
  | negSucc n =>
      have minus : isSpace '-' = false := by decide
      simp [readSigned, sprintD, minus, digitsValue_toDigits, Int.negSucc_lt_zero]

/-- `atoi` undoes `sprintf "%d"` on every 32-bit integer. -/
theorem atoi_sprintD (v : Int32) : atoi (sprintD v.toInt) = v := by
  have low := v.le_toInt
  have high := v.toInt_lt
  rw [atoi, readSigned_sprintD]
  by_cases negative : v.toInt < 0
  · have same : max (-2 ^ 31) (-(v.toInt.natAbs : Int)) = v.toInt := by omega
    simp only [negative, decide_true, ↓reduceIte, same]
    exact Int32.ofInt_toInt v
  · have same : min (2 ^ 31 - 1) (v.toInt.natAbs : Int) = v.toInt := by omega
    simp only [negative, decide_false, Bool.false_eq_true, ↓reduceIte, same]
    exact Int32.ofInt_toInt v

/-- `atoi` reads digits as the number that they say, below the signed range. -/
theorem atoi_digits {s : Str} (nonempty : s ≠ []) (digits : ∀ c ∈ s, c.isDigit = true)
    (bound : digitsValue s < 2 ^ 31)
    : atoi s = Int32.ofNat (digitsValue s) := by
  rw [atoi, readSigned_digits nonempty digits]
  have same : min (2 ^ 31 - 1) (digitsValue s : Int) = digitsValue s := by omega
  simp only [Bool.false_eq_true, ↓reduceIte, same]
  rfl

/-- `atoi` reads back every printed natural number below the signed range. -/
theorem atoi_toDigits {n : Nat} (bound : n < 2 ^ 31)
    : atoi (Nat.toDigits 10 n) = Int32.ofNat n := by
  have value := digitsValue_toDigits n
  have read := atoi_digits Nat.toDigits_ne_nil (fun _ member => toDigits_isDigit member)
    (by rwa [value])
  rwa [value] at read

/-- `strtoul` reads back every printed natural number of its range. -/
theorem strtoul_toDigits {n : Nat} (bound : n < 2 ^ 32)
    : strtoul (Nat.toDigits 10 n) = UInt32.ofNat n := by
  rw [strtoul, readSigned_toDigits]
  simp only [Nat.not_le.mpr bound, ↓reduceIte, Bool.false_eq_true]

example : sprintD (-120) = "-120".toList := by decide

example : atoi "  -99999999999x".toList = -2147483648 := by decide

end CText
