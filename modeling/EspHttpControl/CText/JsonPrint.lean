import EspHttpControl.CText.JsonText

/-! Writing JSON texts: strings in quotes and objects in braces, without white space.
A text of these is read back to the document that it was written for, inside any container and so
also as a whole document.
-/

namespace CText

namespace JsonText

/-- A character that stands for itself in a quoted string. -/
def plainChar (c : Char) : Bool := 0x20 ≤ c.toNat ∧ c ≠ '"' ∧ c ≠ '\\'

/-- A string of characters that stand for themselves. -/
def Plain (s : Str) : Prop := ∀ c ∈ s, plainChar c = true

instance (s : Str) : Decidable (Plain s) := List.decidableBAll (plainChar · = true) s

def quote (s : Str) : Str := '"' :: (s ++ ['"'])

/-- A member of an object whose value has the given text. -/
def memberText (name text : Str) : Str := quote name ++ ':' :: text

/-- An object whose values have the given texts. -/
def braces : List (Str × Str) → Str
  | [] => ['\x7b', '\x7d']
  | first :: rest =>
    '\x7b' :: (memberText first.1 first.2
      ++ (rest.flatMap (fun next => ',' :: memberText next.1 next.2) ++ ['\x7d']))

section

variable (numero : Str → Int32)

/-- The text is read as the value wherever a value may stand. -/
def ReadAs (text : Str) (v : Json) : Prop :=
  ∀ frames, text.foldl (step numero) (.inside frames (.value false)) = give v frames

variable {numero}

/-- A text of a string or an object, as a whole, is a document. -/
theorem ReadAs.isText {text : Str} {v : Json} (h : ReadAs numero text v)
    : IsText numero text v := by
  have whole : read numero text = .done v true := h []
  exact ⟨by rw [parse, whole]; rfl, by rw [whole]; rfl⟩

/-- A document in a buffer with a terminator behind it. -/
theorem ReadAs.parse_cstr {text : Str} {v : Json} (h : ReadAs numero text v) (behind : Str)
    : parse numero (cstr (text ++ nul :: behind)) = some v := by
  rw [cstr_append_nul h.isText.nul_free]
  exact h.isText.1

-----------------------------------------------------------------------------------------
-- Strings
-----------------------------------------------------------------------------------------

/-- Plain characters are collected, by induction on them. -/
theorem foldl_plain {s : Str} (plain : Plain s) (frames : List Frame)
    (key : Option (List (Str × Json))) (raw : Str)
    : s.foldl (step numero) (.inside frames (.string key raw .plain))
      = .inside frames (.string key (raw ++ s) .plain) := by
  induction s generalizing raw with
  | nil => rw [List.foldl_nil, List.append_nil]
  | cons c rest ih =>
      obtain ⟨here, later⟩ := List.forall_mem_cons.mp plain
      simp only [plainChar, decide_eq_true_eq] at here
      have taken : step numero (.inside frames (.string key raw .plain)) c
          = .inside frames (.string key (raw ++ [c]) .plain) := by
        simp only [step, inString, if_neg here.2.1, if_neg here.2.2,
          if_neg (Nat.not_lt.mpr here.1)]
      rw [List.foldl_cons, taken, ih later, List.append_assoc, List.singleton_append]

/-- A character stands for itself, unless it is a backslash. -/
theorem unescape_cons {c : Char} (other : c ≠ '\\') (rest : Str)
    : unescape (c :: rest) = c :: unescape rest := by
  rw [unescape.eq_def]
  split <;> simp_all

/-- Plain characters stand for themselves, by induction on them. -/
theorem unescape_plain {s : Str} (plain : Plain s) : unescape s = s := by
  induction s with
  | nil => rfl
  | cons c rest ih =>
      obtain ⟨here, later⟩ := List.forall_mem_cons.mp plain
      simp only [plainChar, decide_eq_true_eq] at here
      rw [unescape_cons here.2.2, ih later]

theorem Plain.nul_free {s : Str} (plain : Plain s) : nul ∉ s :=
  fun member => absurd (plain nul member) (by decide)

/-- The closing quote ends a string that is a value or a name. -/
theorem foldl_quote {s : Str} (plain : Plain s) (frames : List Frame)
    (key : Option (List (Str × Json)))
    : (s ++ ['"']).foldl (step numero) (.inside frames (.string key [] .plain))
      = match key with
        | none => give (.string s) frames
        | some members => .inside frames (.colon members s) := by
  rw [List.foldl_append, foldl_plain plain, List.nil_append, List.foldl_cons, List.foldl_nil]
  cases key <;>
    simp only [step, inString, if_true, unescape_plain plain, cstr_of_nul_free plain.nul_free]

theorem readAs_quote {s : Str} (plain : Plain s) : ReadAs numero (quote s) (.string s) := by
  intro frames
  exact foldl_quote plain frames none

-----------------------------------------------------------------------------------------
-- Objects
-----------------------------------------------------------------------------------------

/-- A member is added to the object that is being read. -/
theorem foldl_member {name text : Str} {v : Json} (plain : Plain name)
    (value : ReadAs numero text v) (frames : List Frame) (members : List (Str × Json))
    (first : Bool)
    : (memberText name text).foldl (step numero) (.inside frames (.name members first))
      = .inside (.object (members ++ [(name, v)]) [] :: frames) .comma := by
  have opened : step numero (.inside frames (.name members first)) '"'
      = .inside frames (.string (some members) [] .plain) :=
    rfl
  have named : step numero (.inside frames (.colon members name)) ':'
      = .inside (.object members name :: frames) (.value false) :=
    rfl
  have read : (quote name).foldl (step numero) (.inside frames (.name members first))
      = .inside frames (.colon members name) := by
    rw [quote, List.foldl_cons, opened, foldl_quote plain]
  rw [memberText, List.foldl_append, read, List.foldl_cons, named, value]
  rfl

/-- Plain names with the texts of their values. -/
def Members (numero : Str → Int32) (members : List (Str × Str × Json)) : Prop :=
  ∀ m ∈ members, Plain m.1 ∧ ReadAs numero m.2.1 m.2.2

/-- Further members are added one by one, by induction on them. -/
theorem foldl_members {more : List (Str × Str × Json)} (all : Members numero more)
    (frames : List Frame) (members : List (Str × Json))
    : (more.flatMap fun m => ',' :: memberText m.1 m.2.1).foldl (step numero)
        (.inside (.object members [] :: frames) .comma)
      = .inside (.object (members ++ more.map fun m => (m.1, m.2.2)) [] :: frames) .comma := by
  induction more generalizing members with
  | nil => rw [List.flatMap_nil, List.foldl_nil, List.map_nil, List.append_nil]
  | cons m rest ih =>
      obtain ⟨here, later⟩ := List.forall_mem_cons.mp all
      have comma : step numero (.inside (.object members [] :: frames) .comma) ','
          = .inside frames (.name members false) :=
        rfl
      rw [List.flatMap_cons, List.cons_append, List.foldl_cons, comma, List.foldl_append,
        foldl_member here.1 here.2, ih later, List.map_cons, List.append_assoc,
        List.singleton_append]

theorem readAs_braces {members : List (Str × Str × Json)} (all : Members numero members)
    : ReadAs numero (braces (members.map fun m => (m.1, m.2.1)))
        (.object (members.map fun m => (m.1, m.2.2))) := by
  intro frames
  cases members with
  | nil => rfl
  | cons m rest =>
      obtain ⟨here, later⟩ := List.forall_mem_cons.mp all
      have opened : step numero (.inside frames (.value false)) '\x7b'
          = .inside frames (.name [] true) :=
        rfl
      rw [List.map_cons, braces, List.foldl_cons, opened, List.flatMap_map, List.foldl_append,
        List.foldl_append, foldl_member here.1 here.2, foldl_members later]
      rfl

/-- An object of plain strings. -/
theorem readAs_strings {pairs : List (Str × Str)} (all : ∀ p ∈ pairs, Plain p.1 ∧ Plain p.2)
    : ReadAs numero (braces (pairs.map fun p => (p.1, quote p.2)))
        (.object (pairs.map fun p => (p.1, .string p.2))) := by
  have members : Members numero (pairs.map fun p => (p.1, quote p.2, .string p.2)) := by
    intro m member
    obtain ⟨p, inside, rfl⟩ := List.mem_map.mp member
    exact ⟨(all p inside).1, readAs_quote (all p inside).2⟩
  simpa only [List.map_map, Function.comp_def] using readAs_braces members

end

end JsonText

end CText
