import Mathlib.Data.List.Basic

/-! Fixed arrays kept inside a larger state.
A store past the end is refused and a load past the end reads an unspecified cell. The lemmas
follow a loop that fills an array from its first cell on.
-/

namespace CText

variable {α σ : Type*} {n : Nat}

/-- `v[i] = x`, unless the cell lies outside the array. -/
def store (v : Vector α n) (i : Nat) (x : α) : Option (Vector α n) :=
  if inside : i < n then some (v.set i x inside) else none

/-- `v[i]`; a cell outside the array reads as `outside`. -/
def load (v : Vector α n) (i : Nat) (outside : α) : α :=
  v[i]?.getD outside

/-- The array whose first cells hold the given values and whose other cells are those of `v`. -/
def overlay (v : Vector α n) (front : List α) : Vector α n :=
  Vector.ofFn fun i => front[i.val]?.getD v[i]

@[simp]
theorem overlay_nil (v : Vector α n) : overlay v [] = v := by
  ext i bound
  simp [overlay]

theorem store_overlay {front : List α} (room : front.length < n) (v : Vector α n) (x : α)
    : store (overlay v front) front.length x = some (overlay v (front ++ [x])) := by
  rw [store, dif_pos room, Option.some.injEq]
  ext i bound
  simp only [Vector.getElem_set, overlay, Vector.getElem_ofFn]
  by_cases here : front.length = i
  · subst here
    simp
  · rw [if_neg here]
    by_cases before : i < front.length
    · rw [List.getElem?_append_left before]
    · have behind : (front ++ [x]).length ≤ i := by
        simp only [List.length_append, List.length_singleton]
        omega
      rw [List.getElem?_eq_none behind, List.getElem?_eq_none (by omega)]

theorem overlay_behind {v : Vector α n} {front : List α} {i : Nat} (inside : i < n)
    (behind : front.length ≤ i)
    : (overlay v front)[i] = v[i] := by
  simp [overlay, behind]

theorem overlay_replicate (v : Vector α n) (x : α)
    : overlay v (List.replicate n x) = Vector.replicate n x := by
  ext i inside
  simp [overlay]

/-- One cell more of what an array is full of changes nothing. -/
theorem overlay_replicate_append (front : List α) (x : α)
    : overlay (Vector.replicate n x) (front ++ [x]) = overlay (Vector.replicate n x) front := by
  ext i bound
  simp only [overlay, Vector.getElem_ofFn]
  rcases Nat.lt_trichotomy i front.length with before | rfl | behind
  · rw [List.getElem?_append_left before]
  · simp
  · rw [List.getElem?_eq_none (Nat.le_of_lt behind), List.getElem?_eq_none]
    rw [List.length_append]
    exact behind

/-- Behind the front the array has its old content. -/
theorem toList_overlay_append {front : List α} (fits : front.length ≤ n) (v : Vector α n)
    : (overlay v front).toList = front ++ v.toList.drop front.length := by
  apply List.ext_getElem
  · simp [fits]
  · intro i left right
    simp only [overlay, Vector.getElem_toList, Vector.getElem_ofFn]
    by_cases before : i < front.length
    · simp [before]
    · have behind : front.length ≤ i := Nat.not_lt.mp before
      simp [List.getElem_append_right behind, behind]

/-- A front that covers the array is its whole content. -/
theorem toList_overlay {front : List α} (full : front.length = n) (v : Vector α n)
    : (overlay v front).toList = front := by
  rw [toList_overlay_append (Nat.le_of_eq full), List.drop_of_length_le (by simp [full]),
    List.append_nil]

/-- `memcpy(v + i, xs, n)`, unless a cell lies outside the array. -/
def copyAt (v : Vector α n) (i : Nat) (xs : List α) : Option (Vector α n) :=
  if i + xs.length ≤ n then
    some (Vector.ofFn fun k => if k.val < i then v[k] else xs[k.val - i]?.getD v[k])
  else none

theorem copyAt_overlay {front xs : List α} (room : (front ++ xs).length ≤ n) (v : Vector α n)
    : copyAt (overlay v front) front.length xs = some (overlay v (front ++ xs)) := by
  rw [copyAt, if_pos (by rwa [List.length_append] at room), Option.some.injEq]
  ext i bound
  simp only [overlay, Vector.getElem_ofFn, Fin.getElem_fin]
  by_cases before : i < front.length
  · rw [if_pos before, List.getElem?_append_left before]
  · have behind : front.length ≤ i := Nat.not_lt.mp before
    rw [if_neg before, List.getElem?_append_right behind, List.getElem?_eq_none behind,
      Option.getD_none]

/-- A cell behind a copy holds what was copied there, or what it held before. -/
theorem getElem?_copyAt {v w : Vector α n} {i : Nat} {xs : List α} (copied : copyAt v i xs = some w)
    (k : Nat)
    : w[k]? = if k < i then v[k]? else xs[k - i]?.or v[k]? := by
  obtain ⟨room, filled⟩ := Option.ite_none_right_eq_some.mp copied
  obtain rfl := Option.some.inj filled
  by_cases inside : k < n
  · rw [Vector.getElem?_eq_getElem inside, Vector.getElem?_eq_getElem inside,
      Vector.getElem_ofFn]
    dsimp only
    split
    · rfl
    · cases xs[k - i]? <;> rfl
  · have far : n ≤ k := Nat.not_lt.mp inside
    have behind : xs[k - i]? = none := List.getElem?_eq_none (by omega)
    simp [behind, far]

theorem copyAt_eq_none {front xs : List α} (long : n < (front ++ xs).length) (v : Vector α n)
    : copyAt v front.length xs = none := by
  rw [List.length_append] at long
  exact if_neg (Nat.not_le.mpr long)

/-- Where a state keeps one of its arrays: reading it, replacing it, and what these do to
each other.
-/
structure Place (σ α : Type*) (n : Nat) where
  cells : σ → Vector α n
  put : σ → Vector α n → σ
  cells_put : ∀ s v, cells (put s v) = v
  put_put : ∀ s v w, put (put s v) w = put s w
  put_cells : ∀ s, put s (cells s) = s

namespace Place

variable (p : Place σ α n)

def store (s : σ) (i : Nat) (x : α) : Option σ :=
  (CText.store (p.cells s) i x).map (p.put s)

/-- The state whose array starts with the given values. -/
def fill (s : σ) (front : List α) : σ :=
  p.put s (overlay (p.cells s) front)

@[simp]
theorem fill_nil (s : σ) : p.fill s [] = s := by
  rw [fill, overlay_nil, p.put_cells]

/-- Storing behind the filled front fills one cell more. -/
theorem store_fill {front : List α} (room : front.length < n) (s : σ) (x : α)
    : p.store (p.fill s front) front.length x = some (p.fill s (front ++ [x])) := by
  rw [store, fill, p.cells_put, store_overlay room, Option.map_some, p.put_put]
  rfl

end Place

end CText
