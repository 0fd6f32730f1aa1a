import Mathlib.Logic.Function.Basic
import Mathlib.Data.List.Nodup

/-! A store of named registers that admits some names and rejects the others.
A rejected name never holds a value, which is part of the type. The lemmas say what one write
and a list of writes do to the register that is read afterwards.
-/

namespace Registers

/-- Registers of type `ν` under the names of `κ` that `Admits` accepts. -/
@[ext]
structure Store (κ ν : Type*) (Admits : κ → Prop) where
  get : κ → Option ν
  rejected : ∀ name, ¬Admits name → get name = none

namespace Store

variable {κ ν : Type*} {Admits : κ → Prop}

def empty : Store κ ν Admits := ⟨fun _ => none, fun _ _ => rfl⟩

variable [DecidableEq κ] [DecidablePred Admits]

/-- Write one register; a name that is not admitted leaves the store as it is. -/
def write (s : Store κ ν Admits) (name : κ) (value : ν) : Store κ ν Admits :=
  if admitted : Admits name then
    {
      get := Function.update s.get name (some value)
      rejected := fun other h => by
        have ne : other ≠ name := fun same => h (same ▸ admitted)
        rw [Function.update_of_ne ne]
        exact s.rejected other h
    }
  else s

theorem get_write_self {name : κ} (s : Store κ ν Admits) (value : ν) (admitted : Admits name)
    : (s.write name value).get name = some value := by
  simpa only [write, dif_pos admitted] using Function.update_self name (some value) s.get

theorem get_write_of_ne {name other : κ} (s : Store κ ν Admits) (value : ν)
    (ne : other ≠ name)
    : (s.write name value).get other = s.get other := by
  by_cases admitted : Admits name
  · simpa only [write, dif_pos admitted] using Function.update_of_ne ne (some value) s.get
  · rw [write, dif_neg admitted]

theorem write_rejected {name : κ} (s : Store κ ν Admits) (value : ν) (h : ¬Admits name)
    : s.write name value = s :=
  dif_neg h

def writeAll (s : Store κ ν Admits) (entries : List (κ × ν)) : Store κ ν Admits :=
  entries.foldl (fun s entry => s.write entry.1 entry.2) s

@[simp]
theorem writeAll_nil (s : Store κ ν Admits) : s.writeAll [] = s := rfl

@[simp]
theorem writeAll_cons (s : Store κ ν Admits) (entry : κ × ν) (rest : List (κ × ν))
    : s.writeAll (entry :: rest) = (s.write entry.1 entry.2).writeAll rest :=
  rfl

/-- A register that no entry names keeps what it held, by induction on the entries. -/
theorem get_writeAll_of_not_mem {entries : List (κ × ν)} {name : κ}
    (absent : name ∉ entries.map Prod.fst) (s : Store κ ν Admits)
    : (s.writeAll entries).get name = s.get name := by
  induction entries generalizing s with
  | nil => rfl
  | cons entry rest ih =>
      simp only [List.map_cons, List.mem_cons, not_or] at absent
      rw [writeAll_cons, ih absent.2, get_write_of_ne s entry.2 absent.1]

/-- Under distinct names every admitted entry is found again, whatever its position. -/
theorem get_writeAll_of_mem {entries : List (κ × ν)} {name : κ} {value : ν}
    (distinct : (entries.map Prod.fst).Nodup) (member : (name, value) ∈ entries)
    (admitted : Admits name) (s : Store κ ν Admits)
    : (s.writeAll entries).get name = some value := by
  induction entries generalizing s with
  | nil => simp at member
  | cons entry rest ih =>
      rw [List.map_cons, List.nodup_cons] at distinct
      rw [writeAll_cons]
      rcases List.mem_cons.mp member with rfl | later
      · simpa only [get_writeAll_of_not_mem distinct.1] using get_write_self s value admitted
      · exact ih distinct.2 later _

/-- A register keeps what it holds under writes that give it the same value or name others, by
induction on the entries.
-/
theorem get_writeAll_of_held {entries : List (κ × ν)} {name : κ} {value : ν} {s : Store κ ν Admits}
    (held : s.get name = some value) (same : ∀ entry ∈ entries, entry.1 = name → entry.2 = value)
    : (s.writeAll entries).get name = some value := by
  induction entries generalizing s with
  | nil => exact held
  | cons entry rest ih =>
      have written : (s.write entry.1 entry.2).get name = some value := by
        by_cases here : entry.1 = name
        · have admitted : Admits name := by
            by_contra refused
            rw [s.rejected name refused] at held
            cases held
          rw [here, same entry List.mem_cons_self here]
          exact s.get_write_self value admitted
        · exact (s.get_write_of_ne entry.2 (Ne.symm here)).trans held
      exact ih written fun other member => same other (List.mem_cons_of_mem entry member)

theorem writeAll_append (s : Store κ ν Admits) (first second : List (κ × ν))
    : s.writeAll (first ++ second) = (s.writeAll first).writeAll second :=
  List.foldl_append

/-- The register holds a value that one of the entries wrote there. -/
def Written (s : Store κ ν Admits) (entries : List (κ × ν)) (name : κ) : Prop :=
  ∃ value, (name, value) ∈ entries ∧ s.get name = some value

/-- Every admitted name among the entries is held as one of them wrote it, by induction on the
entries.
-/
theorem written_writeAll {entries : List (κ × ν)} {name : κ}
    (named : name ∈ entries.map Prod.fst) (admitted : Admits name) (s : Store κ ν Admits)
    : (s.writeAll entries).Written entries name := by
  induction entries generalizing s with
  | nil => exact absurd named List.not_mem_nil
  | cons entry rest ih =>
      rw [writeAll_cons]
      by_cases later : name ∈ rest.map Prod.fst
      · obtain ⟨value, member, held⟩ := ih later (s.write entry.1 entry.2)
        exact ⟨value, List.mem_cons_of_mem entry member, held⟩
      · have first : name = entry.1 := (List.mem_cons.mp named).resolve_right later
        subst first
        refine ⟨entry.2, List.mem_cons_self, ?_⟩
        rw [get_writeAll_of_not_mem later]
        exact s.get_write_self entry.2 admitted

/-- Writing a value that the register already holds changes nothing. -/
theorem write_of_get {name : κ} {value : ν} (s : Store κ ν Admits)
    (held : s.get name = some value)
    : s.write name value = s := by
  by_cases admitted : Admits name
  · rw [write, dif_pos admitted]
    ext1
    simp [← held]
  · exact write_rejected s value admitted

end Store

end Registers
