import Mathlib.Data.List.Basic

/-! Blocks of the heap that `realloc` grows.
A cell that nothing was stored in is unspecified, and a store outside the block is refused. The
lemmas follow a loop that appends one element a turn.
-/

namespace CText

variable {α : Type*}

/-- The cells of a block; `none` is an unspecified one. -/
abbrev Block (α : Type*) := List (Option α)

/-- `realloc(block, size)`, with the size in cells. -/
def realloc (block : Block α) (size : Nat) : Block α :=
  block.take size ++ List.replicate (size - block.length) none

/-- `block[i] = x`, unless the cell lies outside the block. -/
def poke (block : Block α) (i : Nat) (x : α) : Option (Block α) :=
  if i < block.length then some (block.set i (some x)) else none

/-- A block that grows by one cell keeps what it holds. -/
theorem realloc_succ (xs : List α)
    : realloc (xs.map some) (xs.length + 1) = xs.map some ++ [none] := by
  have long : (xs.map some).length ≤ xs.length + 1 := by
    rw [List.length_map]
    exact Nat.le_succ _
  rw [realloc, List.take_of_length_le long, List.length_map, Nat.add_sub_cancel_left]
  rfl

/-- A store in the spare cell appends the element. -/
theorem poke_spare (xs : List α) (x : α)
    : poke (xs.map some ++ [none]) xs.length x = some ((xs ++ [x]).map some) := by
  have inside : xs.length < (xs.map some ++ [none]).length := by
    rw [List.length_append, List.length_map]
    exact Nat.lt_succ_self _
  have spare : (xs.map some ++ [none]).set xs.length (some x) = xs.map some ++ [some x] := by
    rw [List.set_append_right _ _ (Nat.le_of_eq (List.length_map _)), List.length_map, Nat.sub_self]
    rfl
  rw [poke, if_pos inside, spare, List.map_append]
  rfl

end CText
