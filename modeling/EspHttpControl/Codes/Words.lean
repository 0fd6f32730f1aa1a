import Mathlib.Data.List.Chain

/-! Texts of words of one or two digits that are written behind each other without a mark between
them, as numbers without leading zeros are. A text of a known number of words can be cut in one
way only exactly if all words are short, or none of the cuts between them can be moved.
-/

namespace Codes

variable {α : Type*} [Zero α]

/-- A number of one digit, or of two of which the first is not zero. -/
inductive Word (α : Type*) [Zero α]
  | one (digit : α)
  | two (high low : α) (nonzero : high ≠ 0)

namespace Word

def digits : Word α → List α
  | one digit => [digit]
  | two high low _ => [high, low]

def IsOne : Word α → Prop
  | one _ => True
  | two _ _ _ => False

/-- The cut behind the first word cannot be moved. -/
def Tight : Word α → Word α → Prop
  | one digit, _ => digit = 0
  | two _ low _, one _ => low = 0
  | two _ _ _, two _ _ _ => True

end Word

open Word

/-- The digits of some words behind each other. -/
def text (words : List (Word α)) : List α := words.flatMap digits

@[simp]
theorem text_nil : text ([] : List (Word α)) = [] := rfl

@[simp]
theorem text_one (digit : α) (rest : List (Word α))
    : text (one digit :: rest) = digit :: text rest :=
  rfl

@[simp]
theorem text_two (high low : α) (nonzero : high ≠ 0) (rest : List (Word α))
    : text (two high low nonzero :: rest) = high :: low :: text rest :=
  rfl

@[simp]
theorem text_append (first second : List (Word α))
    : text (first ++ second) = text first ++ text second :=
  List.flatMap_append

/-- No text is empty unless there is no word. -/
theorem text_eq_nil {words : List (Word α)} : text words = [] ↔ words = [] := by
  cases words with
  | nil => simp
  | cons word rest => cases word <;> simp

theorem length_le_text (words : List (Word α)) : words.length ≤ (text words).length := by
  induction words with
  | nil => exact Nat.le_refl 0
  | cons word rest ih =>
      cases word <;> simp only [text_one, text_two, List.length_cons] <;> omega

-----------------------------------------------------------------------------------------
-- Cuts that cannot be moved
-----------------------------------------------------------------------------------------

/-- A digit in front of these words cannot be drawn into the first of them. -/
def Shut (digit : α) (words : List (Word α)) : Prop :=
  digit = 0 ∨ ∀ word ∈ words.head?, ¬word.IsOne

/-- Behind a word of two digits a tight cut shuts its second digit out. -/
theorem shut_of_tight {high low : α} {nonzero : high ≠ 0} {rest : List (Word α)}
    (tight : (two high low nonzero :: rest).IsChain Tight)
    : Shut low rest := by
  cases rest with
  | nil => exact Or.inr fun word none' => absurd none'.symm (Option.some_ne_none word)
  | cons next rest =>
      have closed := (List.isChain_cons_cons.mp tight).1
      cases next with
      | one digit => exact Or.inl closed
      | two _ _ _ =>
          refine Or.inr fun word first => ?_
          obtain rfl := Option.some.inj first
          exact id

/-- A first word of one digit cannot be joined to the word behind a tight cut: unless the digit
is zero no word follows.
-/
theorem ne_text_of_tight {digit low : α} {digits : List α} {rest : List (Word α)}
    (tight : (one digit :: rest).IsChain Tight) (nonzero : digit ≠ 0)
    : low :: digits ≠ text rest := by
  intro same
  cases rest with
  | nil => cases same
  | cons next rest => exact nonzero (List.isChain_cons_cons.mp tight).1

/-- With tight cuts no other words make up the text in fewer pieces, also behind a digit that is
shut out. By induction on the words; a first word that is cut shorter leaves such a digit behind.
-/
theorem length_le_of_tight {words : List (Word α)} (tight : words.IsChain Tight)
    : (∀ others, text others = text words → words.length ≤ others.length)
      ∧ ∀ digit others, Shut digit words → text others = digit :: text words
        → words.length + 1 ≤ others.length := by
  induction words with
  | nil =>
      refine ⟨fun others _ => Nat.zero_le _, fun digit others _ same => ?_⟩
      cases others with
      | nil => cases same
      | cons other others => exact Nat.succ_pos _
  | cons word rest ih =>
      obtain ⟨ihText, ihShut⟩ := ih tight.tail
      have whole (others) (same : text others = text (word :: rest))
          : (word :: rest).length ≤ others.length := by
        cases others with
        | nil => exact absurd (text_eq_nil.mp same.symm) (List.cons_ne_nil _ _)
        | cons other others =>
            cases word with
            | one digit =>
                cases other with
                | one digit' =>
                    exact Nat.succ_le_succ (ihText others (List.cons.inj same).2)
                | two high low nonzero =>
                    obtain ⟨rfl, later⟩ := List.cons.inj same
                    exact absurd later (ne_text_of_tight tight nonzero)
            | two high low nonzero =>
                cases other with
                | one digit' =>
                    have later : text others = low :: text rest := (List.cons.inj same).2
                    exact Nat.le_succ_of_le (ihShut low others (shut_of_tight tight) later)
                | two high' low' nonzero' =>
                    have later : text others = text rest :=
                      (List.cons.inj (List.cons.inj same).2).2
                    exact Nat.succ_le_succ (ihText others later)
      refine ⟨whole, fun digit others shut same => ?_⟩
      cases others with
      | nil => cases same
      | cons other others =>
          cases other with
          | one digit' =>
              exact Nat.succ_le_succ (whole others (List.cons.inj same).2)
          | two high low nonzero =>
              obtain ⟨rfl, later⟩ := List.cons.inj same
              have long := shut.resolve_left nonzero word rfl
              cases word with
              | one digit => exact absurd trivial long
              | two high' low' nonzero' =>
                  have rest' : text others = low' :: text rest := (List.cons.inj later).2
                  exact Nat.succ_le_succ (ihShut low' others (shut_of_tight tight) rest')

/-- Words with tight cuts are the only ones of their number with their text. By induction on the
words: a first word that is cut shorter would make the others too many.
-/
theorem eq_of_tight {words others : List (Word α)} (tight : words.IsChain Tight)
    (same : text others = text words) (length : others.length = words.length)
    : others = words := by
  induction words generalizing others with
  | nil => exact List.eq_nil_of_length_eq_zero length
  | cons word rest ih =>
      cases others with
      | nil => cases length
      | cons other others =>
          have length' : others.length = rest.length := Nat.succ.inj length
          have tail : rest.IsChain Tight := tight.tail
          cases word with
          | one digit =>
              cases other with
              | one digit' =>
                  obtain ⟨rfl, later⟩ := List.cons.inj same
                  rw [ih tail later length']
              | two high low nonzero =>
                  obtain ⟨rfl, later⟩ := List.cons.inj same
                  exact absurd later (ne_text_of_tight tight nonzero)
          | two high low nonzero =>
              cases other with
              | one digit' =>
                  have later : text others = low :: text rest := (List.cons.inj same).2
                  have many := (length_le_of_tight tail).2 low others (shut_of_tight tight) later
                  omega
              | two high' low' nonzero' =>
                  obtain ⟨rfl, second⟩ := List.cons.inj same
                  obtain ⟨rfl, last⟩ := List.cons.inj second
                  have later : text others = text rest := last
                  rw [ih tail later length']

theorem length_text_of_isOne {words : List (Word α)} (ones : ∀ word ∈ words, word.IsOne)
    : (text words).length = words.length := by
  induction words with
  | nil => rfl
  | cons word rest ih =>
      obtain ⟨first, later⟩ := List.forall_mem_cons.mp ones
      cases word with
      | one digit => rw [text_one, List.length_cons, ih later, List.length_cons]
      | two _ _ _ => exact absurd first id

/-- Words of one digit each are the only ones of their number with their text. -/
theorem eq_of_forall_isOne {words others : List (Word α)} (ones : ∀ word ∈ words, word.IsOne)
    (same : text others = text words) (length : others.length = words.length)
    : others = words := by
  induction words generalizing others with
  | nil => exact List.eq_nil_of_length_eq_zero length
  | cons word rest ih =>
      obtain ⟨first, later⟩ := List.forall_mem_cons.mp ones
      cases others with
      | nil => cases length
      | cons other others =>
          have length' : others.length = rest.length := Nat.succ.inj length
          cases word with
          | two _ _ _ => exact absurd first id
          | one digit =>
              cases other with
              | one digit' =>
                  obtain ⟨rfl, behind⟩ := List.cons.inj same
                  rw [ih later behind length']
              | two high low nonzero =>
                  -- the text of the others is too long
                  have short := length_text_of_isOne later
                  have long := length_le_text others
                  have lengths := congrArg List.length same
                  simp only [text_one, text_two, List.length_cons] at lengths
                  omega

-----------------------------------------------------------------------------------------
-- Cuts that can be moved
-----------------------------------------------------------------------------------------

/-- Some other words of the same number have the same text. -/
def Ambiguous (words : List (Word α)) : Prop :=
  ∃ others, others ≠ words ∧ others.length = words.length ∧ text others = text words

/-- Two words that are joined to one make up for a long word that is cut, on either side. -/
theorem ambiguous_of_loose {words : List (Word α)} (long : ∃ word ∈ words, ¬word.IsOne)
    (loose : ¬words.IsChain Tight)
    : Ambiguous words := by
  rw [List.isChain_iff_forall_rel_of_append_cons_cons] at loose
  push Not at loose
  obtain ⟨first, second, before, after, rfl, open'⟩ := loose
  cases first with
  | one digit =>
      have nonzero : digit ≠ 0 := open'
      cases second with
      | two high low nonzero' =>
          refine ⟨before ++ two digit high nonzero :: one low :: after, fun same => ?_, by simp,
            by simp⟩
          cases (List.cons.inj (List.append_cancel_left same)).1
      | one digit' =>
          -- the two words are joined, and a long word is cut in their place
          obtain ⟨word, member, notOne⟩ := long
          cases word with
          | one _ => exact absurd trivial notOne
          | two high low nonzero' =>
              have place : two high low nonzero' ∈ before ∨ two high low nonzero' ∈ after := by
                simpa using member
              rcases place with front | back
              · obtain ⟨start, rest, rfl⟩ := List.append_of_mem front
                refine ⟨start ++ one high :: one low :: rest ++ two digit digit' nonzero :: after,
                  fun same => ?_, ?_, by simp⟩
                · rw [List.append_assoc, List.append_assoc] at same
                  cases (List.cons.inj (List.append_cancel_left same)).1
                · simp only [List.length_append, List.length_cons]
                  omega
              · obtain ⟨start, rest, rfl⟩ := List.append_of_mem back
                refine ⟨before ++ two digit digit' nonzero :: start ++ one high :: one low :: rest,
                  fun same => ?_, ?_, by simp⟩
                · rw [List.append_assoc] at same
                  cases (List.cons.inj (List.append_cancel_left same)).1
                · simp only [List.length_append, List.length_cons]
                  omega
  | two high low nonzero =>
      cases second with
      | two _ _ _ => exact absurd trivial open'
      | one digit =>
          have nonzero' : low ≠ 0 := open'
          refine ⟨before ++ one high :: two low digit nonzero' :: after, fun same => ?_, by simp,
            by simp⟩
          cases (List.cons.inj (List.append_cancel_left same)).1

/-- Words are the only ones of their number with their text exactly if they are all short, or all
cuts between them are tight.
-/
theorem unique_iff (words : List (Word α))
    : (∀ others, others.length = words.length → text others = text words → others = words)
      ↔ (∀ word ∈ words, word.IsOne) ∨ words.IsChain Tight := by
  constructor
  · intro unique
    by_contra neither
    obtain ⟨long, loose⟩ := not_or.mp neither
    push Not at long
    obtain ⟨others, different, length, same⟩ := ambiguous_of_loose long loose
    exact different (unique others length same)
  · rintro (ones | tight) others length same
    · exact eq_of_forall_isOne ones same length
    · exact eq_of_tight tight same length

end Codes
