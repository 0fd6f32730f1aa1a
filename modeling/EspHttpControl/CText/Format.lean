import EspHttpControl.CText.Strtok
import Mathlib.Data.Option.Basic

/-! What `fprintf` prints if its only argument is the format.
A percent sign is printed for two of them; any other conversion wants an argument that is not
there, which is undefined.
-/

namespace CText

/-- `fprintf(f, format)`: the text that is printed, unless the format is undefined. -/
def fprintf : Str → Option Str
  | [] => some []
  | '%' :: '%' :: rest => (fprintf rest).map ('%' :: ·)
  | '%' :: _ => none
  | c :: rest => (fprintf rest).map (c :: ·)

theorem fprintf_cons {c : Char} (plain : c ≠ '%') (rest : Str)
    : fprintf (c :: rest) = (fprintf rest).map (c :: ·) := by
  rw [fprintf]
  · exact fun _ same _ => plain same
  · exact fun same => plain same

/-- What is printed is no longer than the format, and as long only if it is the format: then no
percent sign stands in it. By induction along the format.
-/
theorem length_fprintf {format printed : Str} (defined : fprintf format = some printed)
    : printed.length ≤ format.length
      ∧ (printed.length = format.length → '%' ∉ format ∧ printed = format) := by
  fun_induction fprintf format generalizing printed with
  | case1 =>
      obtain rfl := Option.some.inj defined
      exact ⟨Nat.le_refl _, fun _ => ⟨List.not_mem_nil, rfl⟩⟩
  | case2 rest ih =>
      obtain ⟨later, printedRest, rfl⟩ := Option.map_eq_some_iff.mp defined
      have short := (ih printedRest).1
      simp only [List.length_cons]
      exact ⟨by omega, fun long => by omega⟩
  | case3 rest two => cases defined
  | case4 c rest two one ih =>
      obtain ⟨later, printedRest, rfl⟩ := Option.map_eq_some_iff.mp defined
      obtain ⟨short, same⟩ := ih printedRest
      simp only [List.length_cons]
      refine ⟨by omega, fun long => ?_⟩
      obtain ⟨absent, rfl⟩ := same (by omega)
      have plain : c ≠ '%' := one
      exact ⟨List.not_mem_cons_of_ne_of_not_mem plain.symm absent, rfl⟩

/-- A format without percent signs is printed as it is, by induction on its characters. -/
theorem fprintf_of_free {format : Str} (free : '%' ∉ format) : fprintf format = some format := by
  induction format with
  | nil => rfl
  | cons c rest ih =>
      have plain : '%' ≠ c := List.ne_of_not_mem_cons free
      rw [fprintf_cons plain.symm, ih (List.not_mem_of_not_mem_cons free), Option.map_some]

/-- A last character that is no percent sign is printed as it is. -/
theorem fprintf_concat (format : Str) {c : Char} (plain : c ≠ '%')
    : fprintf (format ++ [c]) = (fprintf format).map (· ++ [c]) := by
  fun_induction fprintf format with
  | case1 => rw [List.nil_append, fprintf_cons plain]; rfl
  | case2 rest ih =>
      rw [List.cons_append, List.cons_append, fprintf, ih, Option.map_map, Option.map_map]
      rfl
  | case3 rest two =>
      cases rest with
      | nil =>
          rw [List.cons_append, fprintf]
          · rfl
          · intro other same
            exact plain (List.cons.inj same).1
      | cons next others =>
          rw [List.cons_append, fprintf]
          · rfl
          · intro other same
            exact two others (by rw [(List.cons.inj same).1])
  | case4 c rest two one ih =>
      have other : c ≠ '%' := one
      rw [List.cons_append, fprintf_cons other, ih, Option.map_map, Option.map_map]
      rfl

example : fprintf "100%%".toList = some "100%".toList := by decide

end CText
