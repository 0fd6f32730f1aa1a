import Mathlib.Data.ZMod.Defs
import EspHttpControl.CText.Strtok
import EspHttpControl.Codes.Words

/-! Bytes that `sprintf "%x"` writes behind each other: how long the text is, and whether it is the
text of these bytes only.
-/

namespace CText

open Codes

/-- A byte as `%x` writes it. -/
def hexWord (byte : UInt8) : Word (Fin 16) :=
  if short : byte.toNat < 16 then .one ⟨byte.toNat, short⟩
  else
    .two ⟨byte.toNat / 16, Nat.div_lt_of_lt_mul byte.toNat_lt⟩
      ⟨byte.toNat % 16, Nat.mod_lt _ (by decide)⟩
      (fun zero => by
        have high : byte.toNat / 16 = 0 := congrArg Fin.val zero
        omega)

/-- The text of some bytes. -/
def hexText (bytes : List UInt8) : Str := bytes.flatMap fun byte => Nat.toDigits 16 byte.toNat

/-- In front of the cut stands a zero, or a byte of two digits whose second one is zero or which
another one of two digits follows.
-/
def CutFixed (byte next : UInt8) : Prop :=
  (byte.toNat < 16 → byte.toNat = 0)
  ∧ (16 ≤ byte.toNat → byte.toNat % 16 ≠ 0 → 16 ≤ next.toNat)

theorem hexWord_short {byte : UInt8} (short : byte.toNat < 16)
    : hexWord byte = .one ⟨byte.toNat, short⟩ :=
  dif_pos short

theorem hexWord_long {byte : UInt8} (long : ¬byte.toNat < 16)
    : ∃ nonzero, hexWord byte
        = .two ⟨byte.toNat / 16, Nat.div_lt_of_lt_mul byte.toNat_lt⟩
          ⟨byte.toNat % 16, Nat.mod_lt _ (by decide)⟩ nonzero :=
  ⟨_, dif_neg long⟩

theorem isOne_hexWord (byte : UInt8) : (hexWord byte).IsOne ↔ byte.toNat < 16 := by
  by_cases short : byte.toNat < 16
  · rw [hexWord_short short]
    exact iff_of_true trivial short
  · obtain ⟨nonzero, same⟩ := hexWord_long short
    rw [same]
    exact iff_of_false id short

theorem tight_hexWord (byte next : UInt8)
    : (hexWord byte).Tight (hexWord next) ↔ CutFixed byte next := by
  by_cases short : byte.toNat < 16
  · rw [hexWord_short short]
    have zero : (⟨byte.toNat, short⟩ : Fin 16) = 0 ↔ byte.toNat = 0 := Fin.ext_iff
    exact zero.trans ⟨fun none' => ⟨fun _ => none', fun long => absurd short (Nat.not_lt.mpr long)⟩,
      fun fixed => fixed.1 short⟩
  · obtain ⟨nonzero, same⟩ := hexWord_long short
    rw [same]
    by_cases shortNext : next.toNat < 16
    · rw [hexWord_short shortNext]
      have zero : (⟨byte.toNat % 16, Nat.mod_lt _ (by decide)⟩ : Fin 16) = 0
          ↔ byte.toNat % 16 = 0 := Fin.ext_iff
      refine zero.trans ⟨fun none' => ⟨fun one => absurd one short, fun _ some' => absurd none' some'⟩,
        fun fixed => ?_⟩
      by_contra some'
      exact absurd (fixed.2 (Nat.not_lt.mp short) some') (Nat.not_le.mpr shortNext)
    · obtain ⟨nonzero', same'⟩ := hexWord_long shortNext
      rw [same']
      exact iff_of_true trivial ⟨fun one => absurd one short, fun _ _ => Nat.not_lt.mp shortNext⟩

theorem hexWord_injective : Function.Injective hexWord := by
  intro left right same
  apply UInt8.toNat_inj.mp
  by_cases shortLeft : left.toNat < 16 <;> by_cases shortRight : right.toNat < 16
  · rw [hexWord_short shortLeft, hexWord_short shortRight] at same
    have digits : (⟨left.toNat, shortLeft⟩ : Fin 16) = ⟨right.toNat, shortRight⟩ :=
      Word.one.inj same
    exact Fin.mk.inj digits
  · obtain ⟨nonzero, long⟩ := hexWord_long shortRight
    rw [hexWord_short shortLeft, long] at same
    cases same
  · obtain ⟨nonzero, long⟩ := hexWord_long shortLeft
    rw [hexWord_short shortRight, long] at same
    cases same
  · obtain ⟨nonzero, long⟩ := hexWord_long shortLeft
    obtain ⟨nonzero', long'⟩ := hexWord_long shortRight
    rw [long, long'] at same
    obtain ⟨high, low⟩ := Word.two.inj same
    have highs : left.toNat / 16 = right.toNat / 16 := congrArg Fin.val high
    have lows : left.toNat % 16 = right.toNat % 16 := congrArg Fin.val low
    omega

theorem hexWord_surjective : Function.Surjective hexWord := by
  intro word
  cases word with
  | one digit =>
      have value : (UInt8.ofNat digit.val).toNat = digit.val :=
        UInt8.toNat_ofNat_of_lt' (Nat.lt_trans digit.isLt (by decide))
      refine ⟨UInt8.ofNat digit.val, ?_⟩
      rw [hexWord_short (by rw [value]; exact digit.isLt)]
      exact congrArg Word.one (Fin.ext value)
  | two high low nonzero =>
      have small : 16 * high.val + low.val < 256 := by omega
      have value : (UInt8.ofNat (16 * high.val + low.val)).toNat = 16 * high.val + low.val :=
        UInt8.toNat_ofNat_of_lt' small
      have positive : high.val ≠ 0 := fun zero => nonzero (Fin.ext zero)
      have long : ¬(UInt8.ofNat (16 * high.val + low.val)).toNat < 16 := by omega
      obtain ⟨nonzero', same⟩ := hexWord_long long
      refine ⟨_, same.trans ?_⟩
      rw [Word.two.injEq]
      exact ⟨Fin.ext (by dsimp only; omega), Fin.ext (by dsimp only; omega)⟩

/-- The characters of a byte are its digits. -/
theorem toDigits_hexWord (byte : UInt8)
    : Nat.toDigits 16 byte.toNat = (hexWord byte).digits.map fun digit => digit.val.digitChar := by
  by_cases short : byte.toNat < 16
  · rw [hexWord_short short]
    exact Nat.toDigits_of_lt_base short
  · have small := byte.toNat_lt
    obtain ⟨nonzero, same⟩ := hexWord_long short
    rw [same, Nat.toDigits_of_base_le (by decide) (Nat.not_lt.mp short),
      Nat.toDigits_of_lt_base (by omega)]
    rfl

theorem digitChar_injective : Function.Injective fun digit : Fin 16 => digit.val.digitChar := by
  have all : ∀ left right : Fin 16, left.val.digitChar = right.val.digitChar → left = right := by
    decide
  exact fun left right => all left right

theorem hexText_eq (bytes : List UInt8)
    : hexText bytes = (text (bytes.map hexWord)).map fun digit => digit.val.digitChar := by
  rw [hexText, text, List.flatMap_map, List.map_flatMap]
  exact List.flatMap_congr fun byte _ => toDigits_hexWord byte

theorem nul_not_mem_hexText (bytes : List UInt8) : nul ∉ hexText bytes := by
  have none' : ∀ digit : Fin 16, digit.val.digitChar ≠ nul := by decide
  rw [hexText_eq]
  intro member
  obtain ⟨digit, -, same⟩ := List.mem_map.mp member
  exact none' digit same

/-- Each byte takes one digit, and those from 16 on take one more. -/
theorem length_hexText (bytes : List UInt8)
    : (hexText bytes).length = bytes.length + bytes.countP (16 ≤ ·.toNat) := by
  induction bytes with
  | nil => rfl
  | cons byte rest ih =>
      have width : (Nat.toDigits 16 byte.toNat).length = 1 + if 16 ≤ byte.toNat then 1 else 0 := by
        rw [toDigits_hexWord, List.length_map]
        by_cases short : byte.toNat < 16
        · rw [hexWord_short short, if_neg (Nat.not_le.mpr short)]
          rfl
        · obtain ⟨nonzero, same⟩ := hexWord_long short
          rw [same, if_pos (Nat.not_lt.mp short)]
          rfl
      have cons : hexText (byte :: rest) = Nat.toDigits 16 byte.toNat ++ hexText rest := rfl
      rw [cons, List.length_append, width, ih, List.length_cons, List.countP_cons]
      simp only [decide_eq_true_eq]
      omega

/-- Bytes are the only ones of their number with their text exactly if they all take one digit, or
no cut between them can be moved.
-/
theorem hexText_unique_iff (bytes : List UInt8)
    : (∀ others, others.length = bytes.length → hexText others = hexText bytes → others = bytes)
      ↔ (∀ byte ∈ bytes, byte.toNat < 16) ∨ bytes.IsChain CutFixed := by
  have ones : (∀ word ∈ bytes.map hexWord, word.IsOne) ↔ ∀ byte ∈ bytes, byte.toNat < 16 := by
    simp only [List.forall_mem_map, isOne_hexWord]
  have tight : (bytes.map hexWord).IsChain Word.Tight ↔ bytes.IsChain CutFixed := by
    simp only [List.isChain_map, tight_hexWord]
  have same (others : List UInt8)
      : hexText others = hexText bytes ↔ text (others.map hexWord) = text (bytes.map hexWord) := by
    rw [hexText_eq, hexText_eq]
    exact (List.map_injective_iff.mpr digitChar_injective).eq_iff
  rw [← ones, ← tight, ← unique_iff]
  constructor
  · intro unique words length text'
    obtain ⟨others, rfl⟩ := List.map_surjective_iff.mpr hexWord_surjective words
    rw [List.length_map, List.length_map] at length
    rw [unique others length ((same others).mpr text')]
  · intro unique others length text'
    apply List.map_injective_iff.mpr hexWord_injective
    exact unique _ (by rw [List.length_map, List.length_map, length]) ((same others).mp text')

end CText
