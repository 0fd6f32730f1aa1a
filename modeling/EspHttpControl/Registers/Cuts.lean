import EspHttpControl.Registers.Store

/-! Lists of writes that stop half-way.
A reader sees each register through a view. Under distinct names it sees no mixture of old and
new registers, wherever the writes stop, exactly if at most one of them changes what it sees.
-/

namespace Registers.Store

variable {κ ν β : Type*} {Admits : κ → Prop} [DecidableEq κ] [DecidablePred Admits]
  (view : κ → Option ν → β)

/-- What a reader sees of the registers. -/
def seen (s : Store κ ν Admits) (name : κ) : β := view name (s.get name)

/-- The write alone changes what is seen of its register. -/
def Changes (s : Store κ ν Admits) (entry : κ × ν) : Prop :=
  (s.write entry.1 entry.2).seen view entry.1 ≠ s.seen view entry.1

/-- A write is found in its register, whatever the other registers held. -/
theorem get_write_write {name other : κ} (s : Store κ ν Admits) (value last : ν)
    (ne : other ≠ name)
    : ((s.write name value).write other last).get other = (s.write other last).get other := by
  by_cases admitted : Admits other
  · rw [get_write_self _ last admitted, get_write_self _ last admitted]
  · rw [write_rejected _ last admitted, write_rejected _ last admitted,
      get_write_of_ne s value ne]

theorem get_writeAll_eq {entries : List (κ × ν)} {entry : κ × ν}
    (distinct : (entries.map Prod.fst).Nodup) (member : entry ∈ entries) (s : Store κ ν Admits)
    : (s.writeAll entries).get entry.1 = (s.write entry.1 entry.2).get entry.1 := by
  by_cases admitted : Admits entry.1
  · rw [get_writeAll_of_mem distinct member admitted, get_write_self _ _ admitted]
  · rw [rejected _ _ admitted, rejected _ _ admitted]

variable {view}

theorem changes_write {name : κ} {entry : κ × ν} (s : Store κ ν Admits) (value : ν)
    (ne : entry.1 ≠ name)
    : (s.write name value).Changes view entry ↔ s.Changes view entry := by
  simp only [Changes, seen, get_write_write s value entry.2 ne, get_write_of_ne s value ne]

theorem seen_write_of_not_changes {s : Store κ ν Admits} {entry : κ × ν}
    (quiet : ¬s.Changes view entry)
    : (s.write entry.1 entry.2).seen view = s.seen view := by
  funext name
  by_cases same : name = entry.1
  · subst same
    exact not_not.mp quiet
  · simp only [seen, get_write_of_ne s entry.2 same]

/-- Writes of which none changes what is seen leave all of it, by induction on the writes. -/
theorem seen_writeAll_of_not_changes {entries : List (κ × ν)} {s : Store κ ν Admits}
    (distinct : (entries.map Prod.fst).Nodup) (quiet : ∀ entry ∈ entries, ¬s.Changes view entry)
    : (s.writeAll entries).seen view = s.seen view := by
  induction entries generalizing s with
  | nil => rfl
  | cons entry rest ih =>
      rw [List.map_cons, List.nodup_cons] at distinct
      rw [writeAll_cons, ih distinct.2 fun other member => ?_]
      · exact seen_write_of_not_changes (quiet entry List.mem_cons_self)
      · rw [changes_write s entry.2 (ne_of_mem_of_not_mem (List.mem_map_of_mem member) distinct.1)]
        exact quiet other (List.mem_cons_of_mem _ member)

/-- At most one of the writes changes what is seen. -/
def AtMostOneChanges (view : κ → Option ν → β) (s : Store κ ν Admits) (entries : List (κ × ν))
    : Prop :=
  entries.Pairwise fun entry other => ¬(s.Changes view entry ∧ s.Changes view other)

/-- Before a first write that is seen, behind it, and behind others of which one is seen as well,
there are three sights.
-/
theorem three_sights {rest : List (κ × ν)} {s : Store κ ν Admits} {entry other : κ × ν}
    (distinct : (rest.map Prod.fst).Nodup) (member : other ∈ rest) (apart : other.1 ≠ entry.1)
    (first : s.Changes view entry) (next : (s.write entry.1 entry.2).Changes view other)
    (second : s.Changes view other)
    : (s.write entry.1 entry.2).seen view ≠ s.seen view
      ∧ ((s.write entry.1 entry.2).writeAll rest).seen view
        ≠ (s.write entry.1 entry.2).seen view
      ∧ ((s.write entry.1 entry.2).writeAll rest).seen view ≠ s.seen view := by
  have final := get_writeAll_eq distinct member (s.write entry.1 entry.2)
  refine ⟨fun same => first (congrFun same entry.1), fun same => next ?_, fun same => second ?_⟩
  · rw [← congrFun same other.1]
    simp only [seen, final]
  · rw [← congrFun same other.1]
    simp only [seen, final, get_write_write s entry.2 other.2 apart]

/-- Wherever a list of writes stops, one of two sights is seen exactly if this is so before and
behind the writes and at most one of them changes what is seen. Witness: induction on the writes;
a second change would make a third sight.
-/
theorem seen_take_iff {entries : List (κ × ν)} {s : Store κ ν Admits} {old new : κ → β}
    (distinct : (entries.map Prod.fst).Nodup)
    : (∀ k, (s.writeAll (entries.take k)).seen view = old
          ∨ (s.writeAll (entries.take k)).seen view = new)
      ↔ (s.seen view = old ∨ s.seen view = new)
        ∧ ((s.writeAll entries).seen view = old ∨ (s.writeAll entries).seen view = new)
        ∧ s.AtMostOneChanges view entries := by
  induction entries generalizing s with
  | nil =>
      simp only [List.take_nil]
      exact ⟨fun all => ⟨all 0, all 0, List.Pairwise.nil⟩, fun holds _ => holds.1⟩
  | cons entry rest ih =>
      rw [List.map_cons, List.nodup_cons] at distinct
      have apart {other : κ × ν} (member : other ∈ rest) : other.1 ≠ entry.1 :=
        ne_of_mem_of_not_mem (List.mem_map_of_mem member) distinct.1
      have kept {other : κ × ν} (member : other ∈ rest)
          : (s.write entry.1 entry.2).Changes view other ↔ s.Changes view other :=
        changes_write s entry.2 (apart member)
      have pairs : (s.write entry.1 entry.2).AtMostOneChanges view rest
          ↔ s.AtMostOneChanges view rest := by
        refine List.Pairwise.iff_of_mem fun left right => ?_
        rw [kept left, kept right]
      have prefixes : (∀ k, (s.writeAll ((entry :: rest).take k)).seen view = old
            ∨ (s.writeAll ((entry :: rest).take k)).seen view = new)
          ↔ (s.seen view = old ∨ s.seen view = new)
            ∧ ∀ k, ((s.write entry.1 entry.2).writeAll (rest.take k)).seen view = old
              ∨ ((s.write entry.1 entry.2).writeAll (rest.take k)).seen view = new := by
        constructor
        · exact fun all => ⟨all 0, fun k => all (k + 1)⟩
        · intro holds k
          cases k with
          | zero => exact holds.1
          | succ k => exact holds.2 k
      rw [prefixes, ih distinct.2, pairs, writeAll_cons]
      constructor
      · intro holds
        obtain ⟨start, next, last, few⟩ := holds
        refine ⟨start, last, List.Pairwise.cons (fun other member => ?_) few⟩
        rintro ⟨first, second⟩
        obtain ⟨oneTwo, twoThree, oneThree⟩ := three_sights distinct.2 member (apart member) first
          ((kept member).mpr second) second
        grind
      · intro holds
        obtain ⟨start, last, few⟩ := holds
        obtain ⟨others, few⟩ := List.pairwise_cons.mp few
        refine ⟨start, ?_, last, few⟩
        by_cases change : s.Changes view entry
        · have quiet : ∀ other ∈ rest, ¬(s.write entry.1 entry.2).Changes view other := by
            intro other member second
            exact others other member ⟨change, (kept member).mp second⟩
          rwa [seen_writeAll_of_not_changes distinct.2 quiet] at last
        · rwa [seen_write_of_not_changes change]

end Registers.Store
