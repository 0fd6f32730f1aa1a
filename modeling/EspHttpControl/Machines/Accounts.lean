import EspHttpControl.Machines.Runs

/-! Accounts of runs: what an observer notes of the steps of a machine that never reads the
notes, and the rule by which state and account are related along a run. Also the runs in which a
machine repeats one input.
-/

namespace Machines

namespace Machine

variable {σ ι γ : Type*} (m : Machine σ ι)

/-- The account after a list of inputs; `note` sees the state, the input and the next state. -/
def account (note : σ → ι → σ → γ → γ) : σ → γ → List ι → γ
  | _, g, [] => g
  | s, g, i :: rest =>
    match m.step s i with
    | none => g
    | some next => account note next (note s i next g) rest

variable {m} {note : σ → ι → σ → γ → γ}

/-- What every step preserves of the state and the account wherever a guard holds, holds of them
after every run under the guard. By induction on the inputs.
-/
theorem invariant_account_of_guard {Inv : σ → γ → Prop} {Guard : σ → ι → Prop}
    (preserved : ∀ s g i next, Guard s i → Inv s g → m.step s i = some next
      → Inv next (note s i next g))
    {s last : σ} {g : γ} {inputs : List ι} (guarded : m.Along Guard s inputs) (start : Inv s g)
    (h : m.run s inputs = some last)
    : Inv last (m.account note s g inputs) := by
  induction inputs generalizing s g with
  | nil => exact Option.some.inj h ▸ start
  | cons i rest ih =>
      obtain ⟨here, later⟩ := guarded
      obtain ⟨next, taken, arrived⟩ := Option.bind_eq_some_iff.mp h
      rw [account, taken]
      exact ih (later next taken) (preserved s g i next here start taken) arrived

/-- As `invariant_account_of_guard`, without a guard. -/
theorem invariant_account {Inv : σ → γ → Prop}
    (preserved : ∀ s g i next, Inv s g → m.step s i = some next → Inv next (note s i next g))
    {s last : σ} {g : γ} {inputs : List ι} (start : Inv s g) (h : m.run s inputs = some last)
    : Inv last (m.account note s g inputs) :=
  invariant_account_of_guard (fun s g i next _ => preserved s g i next)
    (along_iff.mpr fun _ _ _ _ _ _ => trivial) start h

variable (m)

/-- The machine comes to a state by repeating an input, or to its end. -/
def Ends (i : ι) (s : σ) (result : Option σ) : Prop :=
  ∃ n, m.run s (List.replicate n i) = result

variable {m} {i : ι} {s s' : σ} {result : Option σ}

theorem Ends.refl (s : σ) : m.Ends i s (some s) := ⟨0, rfl⟩

theorem Ends.single (taken : m.step s i = result) : m.Ends i s result := by
  refine ⟨1, ?_⟩
  rw [List.replicate_one, run_cons, taken]
  cases result <;> rfl

/-- What follows a state that is reached follows the first one. -/
theorem Ends.bind {next : σ → Option σ} (first : m.Ends i s result)
    (later : ∀ s', result = some s' → m.Ends i s' (next s'))
    : m.Ends i s (result.bind next) := by
  obtain ⟨n, reached⟩ := first
  cases result with
  | none => exact ⟨n, reached⟩
  | some s' =>
      obtain ⟨k, arrived⟩ := later s' rfl
      refine ⟨n + k, ?_⟩
      rw [← List.replicate_append_replicate, run_append, reached]
      exact arrived

theorem Ends.trans (first : m.Ends i s (some s')) (later : m.Ends i s' result)
    : m.Ends i s result := by
  have whole : m.Ends i s ((some s').bind fun _ => result) :=
    first.bind fun last same => Option.some.inj same ▸ later
  rwa [Option.bind_some] at whole

/-- A step on the way to an end comes nearer to it. -/
theorem Ends.next (ends : m.Ends i s result) (under : result ≠ some s)
    (taken : m.step s i = some s')
    : m.Ends i s' result := by
  obtain ⟨n, reached⟩ := ends
  cases n with
  | zero => exact absurd reached.symm under
  | succ n =>
      rw [List.replicate_succ, run_cons, taken] at reached
      exact ⟨n, reached⟩

/-- A state that its input leaves as it is is the only one that repeating the input comes to. -/
theorem Ends.eq_of_fixed (ends : m.Ends i s result) (fixed : m.step s i = some s)
    : result = some s := by
  obtain ⟨n, reached⟩ := ends
  rw [← reached]
  clear reached
  induction n with
  | zero => rfl
  | succ n ih => rw [List.replicate_succ, run_cons, fixed]; exact ih

theorem Ends.step (taken : m.step s i = some s') (later : m.Ends i s' result)
    : m.Ends i s result :=
  (Ends.single taken).trans later

end Machine

end Machines
