import Mathlib.Data.List.Induction

/-! Deterministic machines that may stop, their finite runs, and the rules by which a property
of one step becomes a property of whole runs.
-/

namespace Machines

/-- A machine reads one input at a time; `none` means that it stops for good. -/
structure Machine (σ ι : Type*) where
  step : σ → ι → Option σ

namespace Machine

variable {σ ι : Type*} (m : Machine σ ι)

/-- The state after a list of inputs, unless the machine stopped on the way. -/
def run : σ → List ι → Option σ
  | s, [] => some s
  | s, i :: rest => (m.step s i).bind fun next => run next rest

/-- `P` holds of every state that the run visits, together with the input read there. -/
def Along (P : σ → ι → Prop) : σ → List ι → Prop
  | _, [] => True
  | s, i :: rest => P s i ∧ ∀ next, m.step s i = some next → Along P next rest

@[simp]
theorem run_cons (s : σ) (i : ι) (rest : List ι)
    : m.run s (i :: rest) = (m.step s i).bind fun next => m.run next rest :=
  rfl

theorem run_append (s : σ) (first second : List ι)
    : m.run s (first ++ second) = (m.run s first).bind fun next => m.run next second := by
  induction first generalizing s with
  | nil => rfl
  | cons i rest ih =>
      simp only [List.cons_append, run_cons, ih, Option.bind_assoc]

theorem run_split {s last : σ} {first second : List ι}
    (h : m.run s (first ++ second) = some last)
    : ∃ middle, m.run s first = some middle ∧ m.run middle second = some last := by
  rw [run_append] at h
  exact Option.bind_eq_some_iff.mp h

variable {m}

/-- What every step makes true of the inputs read so far and the state reached holds after
every run, by induction on the inputs from their end.
-/
theorem history_run {History : List ι → σ → Prop} {s last : σ} {inputs : List ι}
    (start : History [] s)
    (extended : ∀ before visited i next, m.run s before = some visited
      → History before visited → m.step visited i = some next → History (before ++ [i]) next)
    (h : m.run s inputs = some last)
    : History inputs last := by
  induction inputs using List.reverseRecOn generalizing last with
  | nil => exact Option.some.inj h ▸ start
  | append_singleton before i ih =>
      obtain ⟨visited, reached, later⟩ := m.run_split h
      obtain ⟨next, taken, arrived⟩ := Option.bind_eq_some_iff.mp later
      obtain rfl := Option.some.inj arrived
      exact extended before visited i next reached (ih reached) taken

/-- What the inputs of a given kind preserve holds after every run on such inputs. -/
theorem invariant_run_of_inputs {Inv : σ → Prop} {Ok : ι → Prop}
    (preserved : ∀ s i next, Ok i → Inv s → m.step s i = some next → Inv next)
    {s last : σ} {inputs : List ι} (ok : ∀ i ∈ inputs, Ok i) (start : Inv s)
    (h : m.run s inputs = some last)
    : Inv last := by
  refine @history_run _ _ m (fun inputs s => (∀ i ∈ inputs, Ok i) → Inv s) _ _ _
    (fun _ => start) ?_ h ok
  intro before visited i next _ earlier taken okAll
  have okBefore : ∀ j ∈ before, Ok j := fun j member => okAll j (List.mem_append_left _ member)
  have okLast : Ok i := okAll i (List.mem_append_right _ (List.mem_singleton.mpr rfl))
  exact preserved visited i next okLast (earlier okBefore) taken

/-- What every step preserves holds after every run. -/
theorem invariant_run {Inv : σ → Prop}
    (preserved : ∀ s i next, Inv s → m.step s i = some next → Inv next)
    {s last : σ} {inputs : List ι} (start : Inv s) (h : m.run s inputs = some last)
    : Inv last := by
  refine @history_run _ _ m (fun _ s => Inv s) _ _ _ start ?_ h
  exact fun before visited i next _ held taken => preserved visited i next held taken

/-- As `invariant_run`, when a step preserves the invariant wherever a guard holds. By induction
on the inputs.
-/
theorem invariant_run_of_guard {Inv : σ → Prop} {Guard : σ → ι → Prop}
    (preserved : ∀ s i next, Guard s i → Inv s → m.step s i = some next → Inv next)
    {s last : σ} {inputs : List ι} (guarded : m.Along Guard s inputs) (start : Inv s)
    (h : m.run s inputs = some last)
    : Inv last := by
  induction inputs generalizing s with
  | nil => exact Option.some.inj h ▸ start
  | cons i rest ih =>
      obtain ⟨here, later⟩ := guarded
      obtain ⟨next, taken, arrived⟩ := Option.bind_eq_some_iff.mp h
      exact ih (later next taken) (preserved s i next here start taken) arrived

/-- `Along` speaks about every split of the inputs at one of them. -/
theorem along_iff {P : σ → ι → Prop} {s : σ} {inputs : List ι}
    : m.Along P s inputs
      ↔ ∀ before i after,
          inputs = before ++ i :: after
          → ∀ visited, m.run s before = some visited → P visited i := by
  induction inputs generalizing s with
  | nil => simp [Along]
  | cons i rest ih =>
      constructor
      · intro holds before j after same visited reached
        rcases holds with ⟨here, later⟩
        cases before with
        | nil =>
            obtain ⟨rfl, rfl⟩ := List.cons.inj same
            exact Option.some.inj reached ▸ here
        | cons k before =>
            obtain ⟨rfl, tail⟩ := List.cons.inj same
            obtain ⟨next, taken, arrived⟩ := Option.bind_eq_some_iff.mp reached
            exact ih.mp (later next taken) before j after tail visited arrived
      · intro all
        refine ⟨all [] i rest rfl s rfl, fun next taken => ih.mpr ?_⟩
        intro before j after same visited reached
        apply all (i :: before) j after (by rw [same]; rfl) visited
        rw [run_cons, taken]
        exact reached

/-- A step property and a condition that agree wherever the invariant holds agree along
whole runs, provided the property carries the invariant on. Witness: induction on the inputs.
-/
theorem along_congr {Inv : σ → Prop} {P Q : σ → ι → Prop}
    (agree : ∀ s i, Inv s → (P s i ↔ Q s i))
    (carried : ∀ s i next, Inv s → P s i → m.step s i = some next → Inv next)
    {s : σ} {inputs : List ι} (start : Inv s)
    : m.Along P s inputs ↔ m.Along Q s inputs := by
  induction inputs generalizing s with
  | nil => exact Iff.rfl
  | cons i rest ih =>
      constructor
      · intro holds
        rcases holds with ⟨here, later⟩
        refine ⟨(agree s i start).mp here, fun next taken => ?_⟩
        exact (ih (carried s i next start here taken)).mp (later next taken)
      · intro holds
        rcases holds with ⟨here, later⟩
        have holds := (agree s i start).mpr here
        refine ⟨holds, fun next taken => ?_⟩
        exact (ih (carried s i next start holds taken)).mpr (later next taken)

/-- Steps that meet a condition and then preserve the invariant give a step property along
every run whose steps all meet the condition.
-/
theorem along_of_guard {Inv : σ → Prop} {Guard P : σ → ι → Prop}
    (holds : ∀ s i, Inv s → Guard s i → P s i)
    (preserved : ∀ s i next, Inv s → Guard s i → m.step s i = some next → Inv next)
    {s : σ} {inputs : List ι} (start : Inv s) (guarded : m.Along Guard s inputs)
    : m.Along P s inputs := by
  induction inputs generalizing s with
  | nil => trivial
  | cons i rest ih =>
      obtain ⟨here, later⟩ := guarded
      exact ⟨holds s i start here,
        fun next taken => ih (preserved s i next start here taken) (later next taken)⟩

variable {τ : Type*}

/-- The second machine follows the first: what the first does from related states the second does
too, to related states.
-/
def Follows (m : Machine σ ι) (n : Machine τ ι) (R : σ → τ → Prop) : Prop :=
  ∀ s t i s', R s t → m.step s i = some s' → ∃ t', n.step t i = some t' ∧ R s' t'

/-- A machine that follows another one step by step follows its runs, by induction on the inputs. -/
theorem Follows.run {n : Machine τ ι} {R : σ → τ → Prop} (follows : m.Follows n R) {s s' : σ}
    {t : τ} {inputs : List ι} (start : R s t) (h : m.run s inputs = some s')
    : ∃ t', n.run t inputs = some t' ∧ R s' t' := by
  induction inputs generalizing s t with
  | nil => exact ⟨t, rfl, Option.some.inj h ▸ start⟩
  | cons i rest ih =>
      obtain ⟨next, taken, arrived⟩ := Option.bind_eq_some_iff.mp h
      obtain ⟨followed, answered, related⟩ := follows s t i next start taken
      obtain ⟨last, reached, ends⟩ := ih related arrived
      exact ⟨last, by rw [run_cons, answered]; exact reached, ends⟩

end Machine

end Machines
