import EspHttpControl.CText.Cells
import EspHttpControl.CText.Strtok

/-! C strings inside a buffer: copying one to a place in it, and reading the one that starts
there. A copy that leaves the buffer is refused, and so is reading a string without an end.
-/

namespace CText

variable {n : Nat}

/-- `strcpy(v + i, s)` -/
def strcpyAt (v : Vector Char n) (i : Nat) (s : Str) : Option (Vector Char n) :=
  copyAt v i (s ++ [nul])

/-- `strlcpy(v + i, s, size)`: as much of the string as `size` cells hold with the terminator. -/
def strlcpyAt (v : Vector Char n) (i : Nat) (s : Str) : Nat → Option (Vector Char n)
  | 0 => some v
  | room + 1 => strcpyAt v i (s.take room)

/-- The string that starts at the `i`-th cell, if it ends inside the buffer. -/
def textAt (v : Vector Char n) (i : Nat) : Option Str :=
  if nul ∈ v.toList.drop i then some (cstr (v.toList.drop i)) else none

/-- A copy may go over the end of what has been written before, as long as it covers it. -/
theorem copyAt_overlay_over {front old xs : List Char} (covered : old.length ≤ xs.length)
    (room : (front ++ xs).length ≤ n) (v : Vector Char n)
    : copyAt (overlay v (front ++ old)) front.length xs = some (overlay v (front ++ xs)) := by
  rw [copyAt, if_pos (by rwa [List.length_append] at room), Option.some.injEq]
  ext i bound
  simp only [overlay, Vector.getElem_ofFn, Fin.getElem_fin]
  by_cases before : i < front.length
  · rw [if_pos before, List.getElem?_append_left before, List.getElem?_append_left before]
  · have behind : front.length ≤ i := Nat.not_lt.mp before
    rw [if_neg before, List.getElem?_append_right behind, List.getElem?_append_right behind]
    by_cases inside : i - front.length < xs.length
    · rw [List.getElem?_eq_getElem inside, Option.getD_some, Option.getD_some]
    · have past : xs.length ≤ i - front.length := Nat.not_lt.mp inside
      rw [List.getElem?_eq_none past, List.getElem?_eq_none (covered.trans past)]
      rfl

/-- What a copied string reads as, from any place inside it. -/
theorem textAt_overlay {before text : Str} (free : nul ∉ text)
    (room : (before ++ text).length < n) (v : Vector Char n)
    : textAt (overlay v (before ++ text ++ [nul])) before.length = some text := by
  have fits : (before ++ text ++ [nul]).length ≤ n := by
    rw [List.length_append]
    exact room
  have shown : (overlay v (before ++ text ++ [nul])).toList.drop before.length
      = text ++ nul :: v.toList.drop (before ++ text ++ [nul]).length := by
    rw [toList_overlay_append fits, List.append_assoc, List.append_assoc, List.drop_left]
    rfl
  rw [textAt, shown, if_pos (List.mem_append_right _ List.mem_cons_self), cstr_append_nul free]

theorem load_overlay {front : List Char} {i : Nat} (inside : i < front.length)
    (room : front.length ≤ n) (v : Vector Char n) (outside : Char)
    : load (overlay v front) i outside = front[i] := by
  simp [load, overlay, inside, Nat.lt_of_lt_of_le inside room]

end CText
