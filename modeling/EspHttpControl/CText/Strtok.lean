import Mathlib.Data.List.Count
import Mathlib.Data.List.TakeWhile

/-! C strings and their destructive tokeniser.
`strtok` is the library function with its saved cursor made explicit; `fields` says what a
whole tokenising loop is for, namely the maximal nonempty runs between delimiters.
-/

namespace CText

/-- The bytes of a C string in front of its terminator, one character for each byte. -/
abbrev Str := List Char

def nul : Char := Char.ofNat 0

/-- The string that a memory area holds: everything in front of its first terminator. -/
def cstr (cells : List Char) : Str :=
  cells.takeWhile (· != nul)

/-- An area without a terminator is read to its end. -/
theorem cstr_of_nul_free {cells : List Char} (free : nul ∉ cells) : cstr cells = cells := by
  rw [cstr, List.takeWhile_eq_self_iff]
  intro c member
  simpa using fun same : c = nul => free (same ▸ member)

/-- Reading goes on behind a text without terminators. -/
theorem cstr_append {text : List Char} (free : nul ∉ text) (rest : List Char)
    : cstr (text ++ rest) = text ++ cstr rest := by
  have kept : text.takeWhile (· != nul) = text := cstr_of_nul_free free
  simp [cstr, List.takeWhile_append, kept]

/-- Reading stops at the first terminator, whatever stands behind it. -/
theorem cstr_append_nul {text rest : List Char} (free : nul ∉ text)
    : cstr (text ++ nul :: rest) = text := by
  rw [cstr_append free, cstr, List.takeWhile_cons_of_neg (by simp), List.append_nil]

/-- One call of `strtok(cursor, delims)`. The cursor is the string passed in, or the saved
position of the call before; `none` is NULL. The result is the token with the new cursor.
-/
def strtok (delims : Str) : Option Str → Option Str × Option Str
  | none => (none, none)
  | some s =>
    match s.dropWhile delims.contains with
    | [] => (none, none)
    | c :: cs =>
      let token := c :: cs.takeWhile (!delims.contains ·)
      match cs.dropWhile (!delims.contains ·) with
      | [] => (some token, none)
      | _ :: rest => (some token, some rest)

/-- The tokens of repeated `strtok` calls until the first NULL; `fuel` bounds the calls. -/
def strtokAll (delims : Str) : Nat → Option Str → List Str
  | 0, _ => []
  | fuel + 1, cursor =>
    match strtok delims cursor with
    | (none, _) => []
    | (some token, next) => token :: strtokAll delims fuel next

/-- A first character that is no delimiter, and the others as `takeWhile` looks at them. -/
theorem free_cons {delims cs : Str} {c : Char} (free : ∀ x ∈ c :: cs, delims.contains x = false)
    : delims.contains c = false ∧ ∀ x ∈ cs, (!delims.contains x) = true := by
  obtain ⟨head, tail⟩ := List.forall_mem_cons.mp free
  refine ⟨head, fun x member => ?_⟩
  rw [tail x member]
  rfl

/-- A run of other characters that a delimiter ends is the token, and the cursor moves
behind that one delimiter.
-/
theorem strtok_run {delims run rest : Str} {d : Char} (nonempty : run ≠ [])
    (free : ∀ c ∈ run, delims.contains c = false) (sep : delims.contains d = true)
    : strtok delims (some (run ++ d :: rest)) = (some run, some rest) := by
  cases run with
  | nil => exact absurd rfl nonempty
  | cons c cs =>
      obtain ⟨head, tail⟩ := free_cons free
      simp only [strtok, List.cons_append, List.dropWhile_cons, head, Bool.false_eq_true,
        ↓reduceIte, List.takeWhile_append_of_pos tail, List.dropWhile_append_of_pos tail,
        List.takeWhile_cons, sep, Bool.not_true, List.append_nil]

/-- A run that the end of the string ends is the last token. -/
theorem strtok_last {delims run : Str} (nonempty : run ≠ [])
    (free : ∀ c ∈ run, delims.contains c = false)
    : strtok delims (some run) = (some run, none) := by
  cases run with
  | nil => exact absurd rfl nonempty
  | cons c cs =>
      obtain ⟨head, tail⟩ := free_cons free
      simp only [strtok, List.dropWhile_cons, head, Bool.false_eq_true, ↓reduceIte,
        List.takeWhile_eq_self_iff.mpr tail, List.dropWhile_eq_nil_iff.mpr tail]

theorem strtok_skip {delims s : Str} {d : Char} (sep : delims.contains d = true)
    : strtok delims (some (d :: s)) = strtok delims (some s) := by
  simp only [strtok, List.dropWhile_cons, sep, ↓reduceIte]

/-- What a call of `strtok` returns as its token; empty in the place of NULL. -/
def firstRun (delims s : Str) : Str :=
  (s.dropWhile delims.contains).takeWhile (!delims.contains ·)

/-- What a call of `strtok` leaves for the next one; empty also where it leaves no cursor. -/
def afterRun (delims s : Str) : Str :=
  ((s.dropWhile delims.contains).dropWhile (!delims.contains ·)).drop 1

/-- Behind the leading delimiters a string is empty or starts with another character. -/
theorem dropWhile_delims (delims s : Str)
    : s.dropWhile delims.contains = []
      ∨ ∃ c cs, s.dropWhile delims.contains = c :: cs ∧ delims.contains c = false := by
  cases same : s.dropWhile delims.contains with
  | nil => exact Or.inl rfl
  | cons c cs =>
      have stopped := List.head?_dropWhile_not delims.contains s
      rw [same] at stopped
      exact Or.inr ⟨c, cs, rfl, by simpa using stopped⟩

/-- The token of a call is the first run, by what stands behind the leading delimiters. -/
theorem strtok_fst (delims s : Str)
    : (strtok delims (some s)).1
      = if firstRun delims s = [] then none else some (firstRun delims s) := by
  rw [strtok, firstRun]
  rcases dropWhile_delims delims s with none' | ⟨c, cs, same, free⟩
  · rw [none']
    rfl
  · rw [same]
    simp only [List.takeWhile_cons, free, Bool.not_false, ↓reduceIte, List.cons_ne_nil]
    split <;> rfl

/-- The next call goes on behind the first run; a missing cursor reads as an empty string. -/
theorem strtok_snd (delims next s : Str)
    : strtok next (strtok delims (some s)).2 = strtok next (some (afterRun delims s)) := by
  rw [strtok, afterRun]
  rcases dropWhile_delims delims s with none' | ⟨c, cs, same, free⟩
  · rw [none']
    rfl
  · rw [same]
    simp only [List.dropWhile_cons, free, Bool.not_false, ↓reduceIte]
    cases cs.dropWhile (!delims.contains ·) with
    | nil => rfl
    | cons d rest => rfl

/-- Where something is left behind the first run, that run is not empty. -/
theorem firstRun_ne_nil {delims s : Str} (left : afterRun delims s ≠ [])
    : firstRun delims s ≠ [] := by
  rw [afterRun] at left
  rw [firstRun]
  rcases dropWhile_delims delims s with none' | ⟨c, cs, same, free⟩
  · rw [none'] at left
    exact absurd rfl left
  · rw [same, List.takeWhile_cons, free]
    exact List.cons_ne_nil _ _

theorem firstRun_of_mem {delims s : Str} {c : Char} (member : c ∈ s)
    (free : delims.contains c = false)
    : firstRun delims s ≠ [] := by
  rw [firstRun]
  rcases dropWhile_delims delims s with none' | ⟨first, rest, same, freeFirst⟩
  · rw [List.dropWhile_eq_nil_iff] at none'
    exact absurd (none' c member) (by rw [free]; exact Bool.false_ne_true)
  · rw [same, List.takeWhile_cons, freeFirst]
    exact List.cons_ne_nil _ _

theorem afterRun_nil (delims : Str) : afterRun delims [] = [] := rfl

theorem firstRun_sublist (delims s : Str) : (firstRun delims s).Sublist s :=
  (List.takeWhile_sublist _).trans (List.dropWhile_sublist _)

theorem afterRun_sublist (delims s : Str) : (afterRun delims s).Sublist s :=
  (List.drop_sublist _ _).trans ((List.dropWhile_sublist _).trans (List.dropWhile_sublist _))

/-- Without delimiters a string is its own first run. -/
theorem firstRun_none (s : Str) : firstRun [] s = s := by
  have none' : s.dropWhile [].contains = s := by
    cases s <;> rfl
  rw [firstRun, none', List.takeWhile_eq_self_iff]
  exact fun _ _ => rfl

/-- The maximal nonempty runs of other characters between delimiters, in order. -/
def fields (delims : Str) (s : Str) : List Str :=
  (s.splitOnP delims.contains).filter (· ≠ [])

/-- A leading delimiter opens an empty run, which is no field. -/
theorem fields_sep {delims s : Str} {d : Char} (sep : delims.contains d = true)
    : fields delims (d :: s) = fields delims s := by
  rw [fields, List.splitOnP_cons_eq_if_modifyHead, if_pos sep]
  simp [fields]

theorem fields_run {delims run rest : Str} {d : Char} (nonempty : run ≠ [])
    (free : ∀ c ∈ run, delims.contains c = false) (sep : delims.contains d = true)
    : fields delims (run ++ d :: rest) = run :: fields delims rest := by
  simp [fields, List.splitOnP_append_cons_of_forall_mem free d sep, nonempty]

theorem fields_single {delims run : Str} (nonempty : run ≠ [])
    (free : ∀ c ∈ run, delims.contains c = false)
    : fields delims run = [run] := by
  simp [fields, List.splitOnP_eq_singleton free, nonempty]

/-- Every string is a run of other characters, ended by a delimiter or by its own end. -/
theorem run_cases (delims s : Str)
    : (∀ c ∈ s, delims.contains c = false)
      ∨ ∃ run d rest,
          s = run ++ d :: rest
          ∧ (∀ c ∈ run, delims.contains c = false)
          ∧ delims.contains d = true := by
  induction s with
  | nil => exact Or.inl (by simp)
  | cons c cs ih =>
      cases sep : delims.contains c with
      | true => exact Or.inr ⟨[], c, cs, rfl, by simp, sep⟩
      | false =>
          rcases ih with free | ⟨run, d, rest, rfl, free, found⟩
          · exact Or.inl (List.forall_mem_cons.mpr ⟨sep, free⟩)
          · exact Or.inr
              ⟨c :: run, d, rest, rfl, List.forall_mem_cons.mpr ⟨sep, free⟩, found⟩

/-- With fuel for every character the tokenising loop returns exactly the fields.
Witness: induction on the fuel; each call skips a delimiter or consumes one run.
-/
theorem strtokAll_eq_fields (delims : Str) (fuel : Nat) (s : Str) (enough : s.length < fuel)
    : strtokAll delims fuel (some s) = fields delims s := by
  induction fuel generalizing s with
  | zero => omega
  | succ fuel ih =>
      induction s with
      | nil => rfl
      | cons c cs tailIH =>
          cases sep : delims.contains c with
          | true =>
              have shorter : cs.length < fuel + 1 := by simp at enough; omega
              rw [fields_sep sep, ← tailIH shorter, strtokAll, strtokAll, strtok_skip sep]
          | false =>
              have nonempty : c :: cs ≠ [] := by simp
              rcases run_cases delims (c :: cs) with free | ⟨run, d, rest, same, free, found⟩
              · rw [strtokAll, strtok_last nonempty free, fields_single nonempty free]
                cases fuel <;> rfl
              · have runNonempty : run ≠ [] := by
                  rintro rfl
                  obtain ⟨rfl, -⟩ := List.cons.inj same
                  exact absurd found (by simp only [sep, Bool.false_eq_true, not_false_iff])
                have shorter : rest.length < fuel := by
                  rw [same] at enough
                  simp at enough
                  omega
                rw [same, strtokAll, strtok_run runNonempty free found,
                  fields_run runNonempty free found]
                exact congrArg (run :: ·) (ih rest shorter)

/-- A string has one part more than separators, by induction on its characters. -/
theorem length_splitOn (d : Char) (s : Str) : (s.splitOn d).length = s.count d + 1 := by
  induction s with
  | nil => rfl
  | cons c cs ih =>
      rw [List.splitOn_cons_eq_if_modifyHead, List.count_cons]
      split
      · rw [List.length_cons, ih]
      · rw [List.length_modifyHead, ih, Nat.add_zero]

/-- The fields between one delimiter are the parts that are not empty. -/
theorem fields_eq_filter (d : Char) (s : Str)
    : fields [d] s = (s.splitOn d).filter (· ≠ []) := by
  have same : [d].contains = (· == d) := by
    funext c
    rw [List.contains_cons, List.contains_nil, Bool.or_false]
  rw [fields, same, List.splitOn_eq_splitOnP]

/-- No part is lost exactly if none of them is empty. -/
theorem fields_eq_splitOn_iff {d : Char} {s : Str}
    : fields [d] s = s.splitOn d ↔ ∀ part ∈ s.splitOn d, part ≠ [] := by
  rw [fields_eq_filter, List.filter_eq_self]
  simp only [decide_eq_true_eq]

/-- As many fields as parts are all the parts. -/
theorem fields_eq_splitOn {d : Char} {s : Str} (many : (s.splitOn d).length ≤ (fields [d] s).length)
    : fields [d] s = s.splitOn d := by
  rw [fields_eq_filter] at many ⊢
  exact List.filter_sublist.eq_of_length_le many

/-- A string of one part is that part. -/
theorem splitOn_eq_self {d : Char} {s : Str} (one : (s.splitOn d).length = 1)
    : s.splitOn d = [s] := by
  rw [length_splitOn] at one
  exact List.splitOn_eq_singleton (List.count_eq_zero.mp (by omega))

/-- Splitting a join by one delimiter gives back nonempty parts free of that delimiter. -/
theorem fields_intercalate {d : Char} {parts : List Str}
    (nonempty : ∀ part ∈ parts, part ≠ []) (free : ∀ part ∈ parts, d ∉ part)
    : fields [d] ([d].intercalate parts) = parts := by
  by_cases empty : parts = []
  · subst empty
    rfl
  · rw [fields_eq_filter, List.splitOn_intercalate d free empty]
    exact List.filter_eq_self.mpr (by simpa using nonempty)

/-- A character of a join comes from the separator or from a part. -/
theorem mem_intercalate {d c : Char} {parts : List Str} (member : c ∈ [d].intercalate parts)
    : c = d ∨ ∃ part ∈ parts, c ∈ part := by
  induction parts with
  | nil => simp at member
  | cons part rest ih =>
      cases rest with
      | nil => exact Or.inr ⟨part, by simp, by simpa using member⟩
      | cons next later =>
          simp only [List.intercalate_cons_cons, List.append_assoc, List.mem_append,
            List.mem_singleton] at member
          rcases member with here | sep | there
          · exact Or.inr ⟨part, by simp, here⟩
          · exact Or.inl sep
          · rcases ih there with sep | ⟨found, among, inside⟩
            · exact Or.inl sep
            · exact Or.inr ⟨found, List.mem_cons_of_mem part among, inside⟩

/-- The separators of a join are one fewer than its parts, by induction on the parts. -/
theorem count_intercalate {d : Char} {parts : List Str} (free : ∀ part ∈ parts, d ∉ part)
    : ([d].intercalate parts).count d = parts.length - 1 := by
  induction parts with
  | nil => rfl
  | cons part rest ih =>
      have none : part.count d = 0 := List.count_eq_zero.mpr (free part (by simp))
      cases rest with
      | nil => simpa using none
      | cons next later =>
          have rest := ih fun other member => free other (List.mem_cons_of_mem part member)
          rw [List.intercalate_cons_cons, List.count_append, List.count_append, none, rest]
          simp
          omega

theorem intercalate_ne_nil {d : Char} {part : Str} {rest : List Str} (nonempty : part ≠ [])
    : [d].intercalate (part :: rest) ≠ [] := by
  cases rest with
  | nil => simpa using nonempty
  | cons next later => simp

end CText
