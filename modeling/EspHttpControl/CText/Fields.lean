import EspHttpControl.CText.Strtok

/-! The fields of a string by their positions: each one is a run of other characters between two
delimiters, or an end of the string, and no run is left out.
-/

namespace CText

/-- At position `i` stands a delimiter. -/
def IsSep (delims s : Str) (i : Nat) : Prop := ∃ c, s[i]? = some c ∧ delims.contains c = true

/-- From `a` up to `b` stands a maximal nonempty run of characters that are no delimiters. -/
structure IsRun (delims s : Str) (a b : Nat) : Prop where
  nonempty : a < b
  inside : b ≤ s.length
  free : ∀ i, a ≤ i → i < b → ¬IsSep delims s i
  left : ∀ i, i + 1 = a → IsSep delims s i
  right : b < s.length → IsSep delims s b

/-- The characters from one position up to another. -/
def cut (s : Str) (span : Nat × Nat) : Str := (s.take span.2).drop span.1

section Runs

variable {delims run rest : Str} {d : Char}

theorem not_isSep_of_free (free : ∀ c ∈ run, delims.contains c = false) (i : Nat)
    : ¬IsSep delims run i := by
  rintro ⟨c, found, sep⟩
  rw [free c (List.mem_of_getElem? found)] at sep
  exact Bool.false_ne_true sep

/-- A string without delimiters has one run, unless it is empty. -/
theorem isRun_of_free (free : ∀ c ∈ run, delims.contains c = false) (a b : Nat)
    : IsRun delims run a b ↔ run ≠ [] ∧ a = 0 ∧ b = run.length := by
  have none' := not_isSep_of_free free
  constructor
  · rintro ⟨below, inside, -, left, right⟩
    refine ⟨?_, ?_, ?_⟩
    · exact List.length_pos_iff.mp (by omega)
    · by_contra positive
      exact none' (a - 1) (left (a - 1) (by omega))
    · by_contra short
      exact none' b (right (by omega))
  · rintro ⟨some', rfl, rfl⟩
    refine ⟨List.length_pos_iff.mpr some', Nat.le_refl _, fun i _ _ => none' i, ?_, ?_⟩
    · exact fun i before => absurd before (Nat.succ_ne_zero i)
    · exact fun bound => absurd bound (Nat.lt_irrefl _)

/-- The first delimiter is the one that ends the run. -/
theorem isSep_front (free : ∀ c ∈ run, delims.contains c = false)
    (sep : delims.contains d = true) {i : Nat} (first : i ≤ run.length)
    : IsSep delims (run ++ d :: rest) i ↔ i = run.length := by
  rcases Nat.lt_or_eq_of_le first with before | rfl
  · have here : IsSep delims (run ++ d :: rest) i ↔ IsSep delims run i := by
      rw [IsSep, List.getElem?_append_left before, IsSep]
    rw [here]
    exact iff_of_false (not_isSep_of_free free i) (Nat.ne_of_lt before)
  · exact iff_of_true ⟨d, by simp, sep⟩ rfl

theorem isSep_behind (i : Nat)
    : IsSep delims (run ++ d :: rest) (i + (run.length + 1)) ↔ IsSep delims rest i := by
  have place : i + (run.length + 1) - run.length = i + 1 := by omega
  rw [IsSep, List.getElem?_append_right (by omega), place, List.getElem?_cons_succ, IsSep]

/-- A run that starts in front of the first delimiter is all that stands there. -/
theorem isRun_front (free : ∀ c ∈ run, delims.contains c = false)
    (sep : delims.contains d = true) {a b : Nat} (first : a ≤ run.length)
    : IsRun delims (run ++ d :: rest) a b ↔ run ≠ [] ∧ a = 0 ∧ b = run.length := by
  have total : (run ++ d :: rest).length = rest.length + (run.length + 1) := by
    rw [List.length_append, List.length_cons]
    omega
  have seps {i : Nat} (bound : i ≤ run.length)
      : IsSep delims (run ++ d :: rest) i ↔ i = run.length :=
    isSep_front free sep bound
  constructor
  · rintro ⟨below, inside, clear, left, right⟩
    -- the run cannot go across the delimiter
    have ends : b ≤ run.length := by
      by_contra across
      exact clear run.length first (by omega) ((seps (Nat.le_refl _)).mpr rfl)
    refine ⟨List.length_pos_iff.mp (by omega), ?_, ?_⟩
    · by_contra positive
      have here := (seps (by omega)).mp (left (a - 1) (by omega))
      omega
    · exact (seps ends).mp (right (by omega))
  · rintro ⟨some', rfl, rfl⟩
    refine ⟨List.length_pos_iff.mpr some', by omega, fun i _ before found => ?_,
      fun i none' => absurd none' (Nat.succ_ne_zero i),
      fun _ => (seps (Nat.le_refl _)).mpr rfl⟩
    exact Nat.ne_of_lt before ((seps (Nat.le_of_lt before)).mp found)

/-- The runs behind the first delimiter are those of the rest. -/
theorem isRun_behind (sep : delims.contains d = true) (a b : Nat)
    : IsRun delims (run ++ d :: rest) (a + (run.length + 1)) (b + (run.length + 1))
      ↔ IsRun delims rest a b := by
  have total : (run ++ d :: rest).length = rest.length + (run.length + 1) := by
    rw [List.length_append, List.length_cons]
    omega
  constructor
  · rintro ⟨below, inside, clear, left, right⟩
    refine ⟨by omega, by omega, fun i from' upTo => ?_, fun i next => ?_, fun bound => ?_⟩
    · rw [← isSep_behind]
      exact clear _ (by omega) (by omega)
    · rw [← isSep_behind]
      exact left _ (by omega)
    · rw [← isSep_behind]
      exact right (by omega)
  · rintro ⟨below, inside, clear, left, right⟩
    refine ⟨by omega, by omega, fun i from' upTo => ?_, fun i next => ?_, fun bound => ?_⟩
    · obtain ⟨k, rfl⟩ := Nat.exists_eq_add_of_le' (Nat.le_of_add_left_le from')
      rw [isSep_behind]
      exact clear k (by omega) (by omega)
    · by_cases start : i = run.length
      · subst start
        exact ⟨d, by simp, sep⟩
      · obtain ⟨k, rfl⟩ : ∃ k, i = k + (run.length + 1) := ⟨i - (run.length + 1), by omega⟩
        rw [isSep_behind]
        exact left k (by omega)
    · rw [isSep_behind]
      exact right (by omega)

/-- A run ends in front of the first delimiter, or lies behind it. -/
theorem isRun_append_cons (free : ∀ c ∈ run, delims.contains c = false)
    (sep : delims.contains d = true) (a b : Nat)
    : IsRun delims (run ++ d :: rest) a b
      ↔ (run ≠ [] ∧ a = 0 ∧ b = run.length)
        ∨ ∃ a' b', a = a' + (run.length + 1) ∧ b = b' + (run.length + 1)
            ∧ IsRun delims rest a' b' := by
  by_cases first : a ≤ run.length
  · rw [isRun_front free sep first, or_iff_left]
    rintro ⟨a', b', rfl, -⟩
    omega
  · have front : ¬(run ≠ [] ∧ a = 0 ∧ b = run.length) := by omega
    rw [or_iff_right front]
    constructor
    · intro found
      have below := found.nonempty
      obtain ⟨a', rfl⟩ : ∃ a', a = a' + (run.length + 1) := ⟨a - (run.length + 1), by omega⟩
      obtain ⟨b', rfl⟩ : ∃ b', b = b' + (run.length + 1) := ⟨b - (run.length + 1), by omega⟩
      exact ⟨a', b', rfl, rfl, (isRun_behind sep a' b').mp found⟩
    · rintro ⟨a', b', rfl, rfl, found⟩
      exact (isRun_behind sep a' b').mpr found

/-- The positions of the runs, in order; each has its run and no run is without one. -/
structure Spans (delims s : Str) (spans : List (Nat × Nat)) : Prop where
  ordered : spans.Pairwise fun first second => first.2 < second.1
  runs : ∀ a b, (a, b) ∈ spans ↔ IsRun delims s a b

/-- The spans of the rest, behind a first run that a delimiter ends. -/
theorem Spans.append_cons {spans : List (Nat × Nat)} (later : Spans delims rest spans)
    (free : ∀ c ∈ run, delims.contains c = false) (sep : delims.contains d = true)
    : Spans delims (run ++ d :: rest)
        ((if run = [] then [] else [(0, run.length)])
          ++ spans.map fun span => (span.1 + (run.length + 1), span.2 + (run.length + 1))) := by
  constructor
  · rw [List.pairwise_append]
    refine ⟨?_, ?_, ?_⟩
    · split
      · exact List.Pairwise.nil
      · exact List.pairwise_singleton _ _
    · refine later.ordered.map _ fun first second below => ?_
      exact Nat.add_lt_add_right below _
    · intro first member second other
      obtain ⟨span, -, rfl⟩ := List.mem_map.mp other
      split at member
      · exact absurd member List.not_mem_nil
      · obtain rfl := List.mem_singleton.mp member
        dsimp only
        omega
  · intro a b
    rw [isRun_append_cons free sep, List.mem_append, List.mem_map]
    refine or_congr ?_ ?_
    · split
      · next empty => simp [empty]
      · next some' => simp [some', Prod.ext_iff]
    · constructor
      · rintro ⟨⟨a', b'⟩, member, same⟩
        obtain ⟨rfl, rfl⟩ := Prod.mk.inj same
        exact ⟨a', b', rfl, rfl, (later.runs a' b').mp member⟩
      · rintro ⟨a', b', rfl, rfl, found⟩
        exact ⟨(a', b'), (later.runs a' b').mpr found, rfl⟩

/-- A span of the rest cuts the same characters out of the whole. -/
theorem cut_append_cons (span : Nat × Nat)
    : cut (run ++ d :: rest) (span.1 + (run.length + 1), span.2 + (run.length + 1))
      = cut rest span := by
  have front : run ++ d :: rest = (run ++ [d]) ++ rest := by simp
  have size : (run ++ [d]).length = run.length + 1 := List.length_append
  rw [cut, cut, front, ← size, Nat.add_comm span.2, List.take_length_add_append,
    Nat.add_comm span.1, List.drop_length_add_append]

end Runs

/-- The rule of induction for strings of fields: a property of all strings without delimiters
that passes from a rest to a run, a delimiter and this rest holds of every string.
-/
@[elab_as_elim]
theorem runs_induction (delims : Str) {motive : Str → Prop}
    (last : ∀ run : Str, (∀ c ∈ run, delims.contains c = false) → motive run)
    (more : ∀ (run : Str) (d : Char) (rest : Str), (∀ c ∈ run, delims.contains c = false)
      → delims.contains d = true → motive rest → motive (run ++ d :: rest))
    (s : Str)
    : motive s := by
  induction size : s.length using Nat.strong_induction_on generalizing s with
  | _ n ih =>
      rcases run_cases delims s with free | ⟨run, d, rest, rfl, free, sep⟩
      · exact last s free
      · have shorter : rest.length < n := by
          rw [← size, List.length_append, List.length_cons]
          omega
        exact more run d rest free sep (ih rest.length shorter rest rfl)

/-- The fields of a string are the characters of its runs, in order. By induction on its runs. -/
theorem fields_spans (delims s : Str)
    : ∃ spans, Spans delims s spans ∧ fields delims s = spans.map (cut s) := by
  induction s using runs_induction delims with
  | last run free =>
      by_cases empty : run = []
      · subst empty
        refine ⟨[], ⟨List.Pairwise.nil, fun a b => ?_⟩, rfl⟩
        simp [isRun_of_free free]
      · refine ⟨[(0, run.length)], ⟨List.pairwise_singleton _ _, fun a b => ?_⟩, ?_⟩
        · rw [isRun_of_free free, List.mem_singleton, Prod.mk.injEq]
          exact ⟨fun same => ⟨empty, same⟩, fun same => same.2⟩
        · rw [fields_single empty free]
          simp [cut]
  | more run d rest free sep ih =>
      obtain ⟨spans, later, same⟩ := ih
      refine ⟨_, later.append_cons free sep, ?_⟩
      have behind : (spans.map fun span =>
            (span.1 + (run.length + 1), span.2 + (run.length + 1))).map (cut (run ++ d :: rest))
          = spans.map (cut rest) := by
        rw [List.map_map]
        exact List.map_congr_left fun span _ => cut_append_cons span
      rw [List.map_append, behind, ← same]
      by_cases empty : run = []
      · subst empty
        exact fields_sep sep
      · rw [fields_run empty free sep, if_neg empty]
        simp [cut]

/-- The fields and the delimiters between them fill the string at most. -/
theorem length_fields_le (delims s : Str) : 2 * (fields delims s).length ≤ s.length + 1 := by
  induction s using runs_induction delims with
  | last run free =>
      by_cases empty : run = []
      · subst empty
        simp [fields]
      · have positive := List.length_pos_iff.mpr empty
        rw [fields_single empty free, List.length_singleton]
        omega
  | more run d rest free sep ih =>
      rw [List.length_append, List.length_cons]
      by_cases empty : run = []
      · subst empty
        rw [List.nil_append, fields_sep sep]
        omega
      · have positive := List.length_pos_iff.mpr empty
        rw [fields_run empty free sep, List.length_cons]
        omega

/-- Delimiters in front of a string open no field. -/
theorem fields_append_seps {delims before s : Str} (seps : ∀ c ∈ before, delims.contains c = true)
    : fields delims (before ++ s) = fields delims s := by
  induction before with
  | nil => rfl
  | cons c rest ih =>
      rw [List.cons_append, fields_sep (seps c List.mem_cons_self)]
      exact ih fun other member => seps other (List.mem_cons_of_mem c member)

/-- Delimiters alone hold no field. -/
theorem fields_seps {delims after : Str} (seps : ∀ c ∈ after, delims.contains c = true)
    : fields delims after = [] := by
  have whole := fields_append_seps (s := []) seps
  rwa [List.append_nil] at whole

/-- Fields joined by one of the delimiters are found again, with any delimiters around them. By
induction on the fields.
-/
theorem fields_join {delims before after : Str} {d : Char} {parts : List Str}
    (sep : delims.contains d = true) (nonempty : ∀ part ∈ parts, part ≠ [])
    (free : ∀ part ∈ parts, ∀ c ∈ part, delims.contains c = false)
    (first : ∀ c ∈ before, delims.contains c = true) (last : ∀ c ∈ after, delims.contains c = true)
    : fields delims (before ++ [d].intercalate parts ++ after) = parts := by
  rw [List.append_assoc, fields_append_seps first]
  induction parts with
  | nil => exact fields_seps last
  | cons part rest ih =>
      have some' := nonempty part List.mem_cons_self
      have clear := free part List.mem_cons_self
      have later := ih (fun other member => nonempty other (List.mem_cons_of_mem part member))
        fun other member => free other (List.mem_cons_of_mem part member)
      cases rest with
      | nil =>
          rw [List.intercalate_singleton]
          cases after with
          | nil => rw [List.append_nil, fields_single some' clear]
          | cons c after =>
              rw [fields_run some' clear (last c List.mem_cons_self),
                fields_seps fun other member => last other (List.mem_cons_of_mem c member)]
      | cons next others =>
          rw [List.intercalate_cons_cons, List.append_assoc, List.append_assoc,
            List.singleton_append, fields_run some' clear sep, later]

end CText
