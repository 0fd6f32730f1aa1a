import EspHttpControl.CText.Strtok

/-! Texts that are built from pieces: what pieces make when they are appended one behind another,
and what can be read from a text whose last part is not closed yet.
-/

namespace CText

/-- What the pieces make; a NULL among them is an error. -/
def joined : List (Option Str) → Option Str
  | [] => some []
  | none :: _ => none
  | some piece :: rest => (joined rest).map (piece ++ ·)

/-- Some of the pieces, from the first one on, make the text. -/
def Begins (pieces : List (Option Str)) (text : Str) : Prop :=
  ∃ (done : List Str) (rest : List (Option Str)), pieces = done.map some ++ rest ∧ text = done.flatten

theorem joined_map_some (pieces : List Str) : joined (pieces.map some) = some pieces.flatten := by
  induction pieces with
  | nil => rfl
  | cons piece rest ih => rw [List.map_cons, joined, ih, Option.map_some, List.flatten_cons]

theorem joined_append_some (pieces : List Str) (rest : List (Option Str))
    : joined (pieces.map some ++ rest) = (joined rest).map (pieces.flatten ++ ·) := by
  induction pieces with
  | nil => simp
  | cons piece others ih =>
      rw [List.map_cons, List.cons_append, joined, ih, Option.map_map, List.flatten_cons]
      congr 1
      funext text
      simp

theorem joined_append_last (pieces : List (Option Str)) (last : Str)
    : joined (pieces ++ [some last]) = (joined pieces).map (· ++ last) := by
  induction pieces with
  | nil => simp [joined]
  | cons piece rest ih =>
      cases piece with
      | none => rfl
      | some piece =>
          rw [List.cons_append, joined, joined, ih, Option.map_map, Option.map_map]
          congr 1
          funext text
          simp

/-- Pieces with a separator between them are the text of their union. -/
theorem joined_intersperse (sep : Str) (parts : List Str)
    : joined ((parts.intersperse sep).map some) = some (sep.intercalate parts) := by
  rw [joined_map_some, List.intercalate]

theorem mem_intersperse {sep part : Str} {parts : List Str} (member : part ∈ parts.intersperse sep)
    : part = sep ∨ part ∈ parts := by
  induction parts with
  | nil => cases member
  | cons first rest ih =>
      cases rest with
      | nil => exact Or.inr member
      | cons second others =>
          rw [List.intersperse_cons_cons, List.mem_cons, List.mem_cons] at member
          rcases member with rfl | rfl | later
          · exact Or.inr List.mem_cons_self
          · exact Or.inl rfl
          · exact (ih later).imp_right (List.mem_cons_of_mem first)

/-- Parts that are closed by a delimiter are fields, whatever stands behind them. -/
theorem fields_closed {d : Char} {parts : List Str} (nonempty : ∀ part ∈ parts, part ≠ [])
    (free : ∀ part ∈ parts, d ∉ part) (tail : Str)
    : fields [d] (parts.flatMap (· ++ [d]) ++ tail) = parts ++ fields [d] tail := by
  induction parts with
  | nil => rfl
  | cons part rest ih =>
      have run : ∀ c ∈ part, [d].contains c = false := by
        intro c member
        simpa using fun same : c = d => free part List.mem_cons_self (same ▸ member)
      have later := ih (fun other member => nonempty other (List.mem_cons_of_mem part member))
        fun other member => free other (List.mem_cons_of_mem part member)
      rw [List.flatMap_cons, List.append_assoc, List.append_assoc, List.singleton_append,
        fields_run (nonempty part List.mem_cons_self) run (by simp), later, List.cons_append]

/-- A part that is not closed is a field of its own, if there is anything of it. -/
theorem fields_open {d : Char} {part : Str} (free : d ∉ part)
    : fields [d] part = if part = [] then [] else [part] := by
  split
  · next empty => subst empty; rfl
  · next some' =>
    refine fields_single some' fun c member => ?_
    simpa using fun same : c = d => free (same ▸ member)

end CText
