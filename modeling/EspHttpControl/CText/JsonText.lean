import EspHttpControl.CText.Json

/-! Reading JSON texts character by character.
A reader of the standard grammar takes one character at a time, so that what it makes of a text
is what it makes of the second part after the first one. The value of a number is a parameter,
since C reads it as a floating-point number.
-/

namespace CText

namespace JsonText

def blank (c : Char) : Bool := c = ' ' ∨ c = '\t' ∨ c = '\n' ∨ c = '\r'

/-- A container whose element is being read, with the elements in front of it. -/
inductive Frame
  | array (items : List Json)
  | object (members : List (Str × Json)) (name : Str)

/-- How far a string is read: between characters, behind a backslash, or inside `\u`. -/
inductive Quoted
  | plain
  | escape
  | hex (missing : Nat)

inductive Numeral
  | minus | zero | int | point | fraction | exp | sign | exponent
deriving DecidableEq

/-- The three names of values. -/
inductive Word
  | bool (value : Bool)
  | null

def Word.text : Word → Str
  | .bool true => ['t', 'r', 'u', 'e']
  | .bool false => ['f', 'a', 'l', 's', 'e']
  | .null => ['n', 'u', 'l', 'l']

def Word.value : Word → Json
  | .bool value => .bool value
  | .null => .null

/-- What must come next. A value or a name can be missing right behind the opening bracket. -/
inductive Phase
  | value (first : Bool)
  | name (members : List (Str × Json)) (first : Bool)
  | colon (members : List (Str × Json)) (name : Str)
  | comma
  | string (key : Option (List (Str × Json))) (raw : Str) (quoted : Quoted)
  | literal (word : Word) (count : Nat)
  | number (numeral : Numeral) (raw : Str)

/-- The reader: inside a document, behind it, or stopped. Behind a document it notes whether
only white space came.
-/
inductive Reader
  | inside (frames : List Frame) (phase : Phase)
  | done (value : Json) (clean : Bool)
  | failed

def hexValue (c : Char) : Nat :=
  if c.isDigit then c.toNat - '0'.toNat else c.toLower.toNat - 'a'.toNat + 10

def isHex (c : Char) : Bool := c.isDigit || ('a' ≤ c.toLower && c.toLower ≤ 'f')

/-- The UTF-8 bytes of a code point. -/
def utf8 (code : Nat) : Str :=
  if code < 0x80 then [Char.ofNat code]
  else if code < 0x800 then [Char.ofNat (0xC0 + code / 0x40), Char.ofNat (0x80 + code % 0x40)]
  else if code < 0x10000 then
    [Char.ofNat (0xE0 + code / 0x1000), Char.ofNat (0x80 + code / 0x40 % 0x40),
      Char.ofNat (0x80 + code % 0x40)]
  else
    [Char.ofNat (0xF0 + code / 0x40000), Char.ofNat (0x80 + code / 0x1000 % 0x40),
      Char.ofNat (0x80 + code / 0x40 % 0x40), Char.ofNat (0x80 + code % 0x40)]

def hex4 (a b c d : Char) : Nat :=
  ((hexValue a * 16 + hexValue b) * 16 + hexValue c) * 16 + hexValue d

/-- The characters that a string stands for; a pair of surrogates is one code point. -/
def unescape : Str → Str
  | '\\' :: 'u' :: a :: b :: c :: d :: '\\' :: 'u' :: e :: f :: g :: h :: rest =>
    let high := hex4 a b c d
    let low := hex4 e f g h
    if 0xD800 ≤ high ∧ high < 0xDC00 ∧ 0xDC00 ≤ low ∧ low < 0xE000 then
      utf8 (0x10000 + (high - 0xD800) * 0x400 + (low - 0xDC00)) ++ unescape rest
    else utf8 high ++ unescape ('\\' :: 'u' :: e :: f :: g :: h :: rest)
  | '\\' :: 'u' :: a :: b :: c :: d :: rest => utf8 (hex4 a b c d) ++ unescape rest
  | '\\' :: 'b' :: rest => Char.ofNat 8 :: unescape rest
  | '\\' :: 'f' :: rest => Char.ofNat 12 :: unescape rest
  | '\\' :: 'n' :: rest => '\n' :: unescape rest
  | '\\' :: 'r' :: rest => '\r' :: unescape rest
  | '\\' :: 't' :: rest => '\t' :: unescape rest
  | '\\' :: c :: rest => c :: unescape rest
  | c :: rest => c :: unescape rest
  | [] => []

/-- The next character of a number, unless the number ends in front of it. -/
def Numeral.next (numeral : Numeral) (c : Char) : Option Numeral :=
  match numeral with
  | .minus => if c = '0' then some .zero else if c.isDigit then some .int else none
  | .zero => if c = '.' then some .point else if c = 'e' ∨ c = 'E' then some .exp else none
  | .int =>
    if c.isDigit then some .int
    else if c = '.' then some .point
    else if c = 'e' ∨ c = 'E' then some .exp
    else none
  | .point => if c.isDigit then some .fraction else none
  | .fraction =>
    if c.isDigit then some .fraction else if c = 'e' ∨ c = 'E' then some .exp else none
  | .exp =>
    if c = '+' ∨ c = '-' then some .sign else if c.isDigit then some .exponent else none
  | .sign => if c.isDigit then some .exponent else none
  | .exponent => if c.isDigit then some .exponent else none

/-- Whether a number may end here. -/
def Numeral.complete : Numeral → Bool
  | .zero => true
  | .int => true
  | .fraction => true
  | .exponent => true
  | _ => false

-----------------------------------------------------------------------------------------
-- One character
-----------------------------------------------------------------------------------------

/-- A value is complete: it goes into the innermost container, or it is the document. -/
def give (v : Json) : List Frame → Reader
  | [] => .done v true
  | .array items :: frames => .inside (.array (items ++ [v]) :: frames) .comma
  | .object members name :: frames =>
    .inside (.object (members ++ [(name, v)]) [] :: frames) .comma

/-- The first character of a value. -/
def openValue (frames : List Frame) (c : Char) : Reader :=
  match c with
  | '\x7b' => .inside frames (.name [] true)
  | '[' => .inside (.array [] :: frames) (.value true)
  | '"' => .inside frames (.string none [] .plain)
  | 't' => .inside frames (.literal (.bool true) 1)
  | 'f' => .inside frames (.literal (.bool false) 1)
  | 'n' => .inside frames (.literal .null 1)
  | '-' => .inside frames (.number .minus [c])
  | '0' => .inside frames (.number .zero [c])
  | _ => if c.isDigit then .inside frames (.number .int [c]) else .failed

/-- A character behind a value: white space, a comma or the closing bracket of the innermost
container.
-/
def afterValue (frames : List Frame) (c : Char) : Reader :=
  if blank c then .inside frames .comma
  else
    match c, frames with
    | ',', .array _ :: _ => .inside frames (.value false)
    | ',', .object members _ :: frames => .inside frames (.name members false)
    | ']', .array items :: frames => give (.array items) frames
    | '\x7d', .object members _ :: frames => give (.object members) frames
    | _, _ => .failed

/-- A character inside a string; control characters are not allowed. -/
def inString (frames : List Frame) (key : Option (List (Str × Json))) (raw : Str)
    (quoted : Quoted) (c : Char)
    : Reader :=
  match quoted with
  | .plain =>
    if c = '"' then
      let text := cstr (unescape raw)
      match key with
      | none => give (.string text) frames
      | some members => .inside frames (.colon members text)
    else if c = '\\' then .inside frames (.string key (raw ++ [c]) .escape)
    else if c.toNat < 0x20 then .failed
    else .inside frames (.string key (raw ++ [c]) .plain)
  | .escape =>
    if c = 'u' then .inside frames (.string key (raw ++ [c]) (.hex 4))
    else if c ∈ ['"', '\\', '/', 'b', 'f', 'n', 'r', 't'] then
      .inside frames (.string key (raw ++ [c]) .plain)
    else .failed
  | .hex missing =>
    if isHex c then
      .inside frames (.string key (raw ++ [c]) (if missing ≤ 1 then .plain else .hex (missing - 1)))
    else .failed

variable (numero : Str → Int32)

def step : Reader → Char → Reader
  | .failed, _ => .failed
  | .done v clean, c => .done v (clean && blank c)
  | .inside frames (.value first), c =>
    if blank c then .inside frames (.value first)
    else if first ∧ c = ']' then
      match frames with
      | .array items :: frames => give (.array items) frames
      | _ => .failed
    else openValue frames c
  | .inside frames (.name members first), c =>
    if blank c then .inside frames (.name members first)
    else if c = '"' then .inside frames (.string (some members) [] .plain)
    else if first ∧ c = '\x7d' then give (.object members) frames
    else .failed
  | .inside frames (.colon members name), c =>
    if blank c then .inside frames (.colon members name)
    else if c = ':' then .inside (.object members name :: frames) (.value false)
    else .failed
  | .inside frames .comma, c => afterValue frames c
  | .inside frames (.string key raw quoted), c => inString frames key raw quoted c
  | .inside frames (.literal word count), c =>
    if word.text[count]? = some c then
      if count + 1 = word.text.length then give word.value frames
      else .inside frames (.literal word (count + 1))
    else .failed
  | .inside frames (.number numeral raw), c =>
    match numeral.next c with
    | some numeral => .inside frames (.number numeral (raw ++ [c]))
    | none =>
      if numeral.complete then
        match give (.number (numero raw)) frames with
        | .inside frames _ => afterValue frames c
        | .done v _ => .done v (blank c)
        | .failed => .failed
      else .failed

/-- A text, from the beginning of a document. -/
def read (text : Str) : Reader := text.foldl (step numero) (.inside [] (.value false))

/-- The document that was read, if it is complete; a number can end with the text. -/
def Reader.document : Reader → Option Json
  | .done v _ => some v
  | .inside [] (.number numeral raw) =>
    if numeral.complete then some (.number (numero raw)) else none
  | _ => none

/-- Nothing but white space came behind the document. -/
def Reader.clean : Reader → Bool
  | .done _ clean => clean
  | _ => true

/-- The document at the beginning of a text; text behind it is ignored. -/
def parse (text : Str) : Option Json := (read numero text).document numero

/-- The text is a JSON text for the document. -/
def IsText (text : Str) (root : Json) : Prop :=
  parse numero text = some root ∧ (read numero text).clean

-----------------------------------------------------------------------------------------
-- A text and its continuations
-----------------------------------------------------------------------------------------

variable {numero}

theorem read_append (first second : Str)
    : read numero (first ++ second) = second.foldl (step numero) (read numero first) :=
  List.foldl_append

theorem foldl_failed (text : Str) : text.foldl (step numero) .failed = .failed := by
  induction text with
  | nil => rfl
  | cons c rest ih => exact ih

/-- Behind a document only the kind of the characters is noted. -/
theorem foldl_done (text : Str) (v : Json) (clean : Bool)
    : text.foldl (step numero) (.done v clean) = .done v (clean && text.all blank) := by
  induction text generalizing clean with
  | nil => simp
  | cons c rest ih => rw [List.foldl_cons, step, ih, List.all_cons, Bool.and_assoc]

/-- A text at whose end a document is complete is read as it whatever stands behind it. -/
theorem parse_cstr_done {text : Str} {v : Json} (free : nul ∉ text)
    (whole : read numero text = .done v true) (behind : Str)
    : parse numero (cstr (text ++ behind)) = some v := by
  rw [cstr_append free, parse, read_append, whole, foldl_done]
  rfl

theorem read_blank {text : Str} (all : text.all blank)
    : read numero text = .inside [] (.value false) := by
  rw [read]
  induction text with
  | nil => rfl
  | cons c rest ih =>
      rw [List.all_cons, Bool.and_eq_true] at all
      have same : step numero (.inside [] (.value false)) c = .inside [] (.value false) := by
        simp [step, all.1]
      simpa only [List.foldl_cons, same] using ih all.2

theorem parse_blank {text : Str} (all : text.all blank) : parse numero text = none := by
  rw [parse, read_blank all]
  rfl

/-- The reader is in or behind a number that is the whole document, or it stopped. -/
def Reader.TopNumber : Reader → Prop
  | .inside [] (.number _ _) => True
  | .done (.number _) _ => True
  | .failed => True
  | _ => False

/-- A number that is the whole document stays one, by the cases of the step. -/
theorem step_topNumber {reader : Reader} (top : reader.TopNumber) (c : Char)
    : (step numero reader c).TopNumber := by
  match reader, top with
  | .failed, _ => trivial
  | .done (.number _) _, _ => trivial
  | .inside [] (.number numeral raw), _ =>
    simp only [step]
    split
    · trivial
    · split <;> trivial

theorem foldl_topNumber {reader : Reader} (top : reader.TopNumber) (text : Str)
    : (text.foldl (step numero) reader).TopNumber := by
  induction text generalizing reader with
  | nil => exact top
  | cons c rest ih => exact ih (step_topNumber top c)

theorem document_topNumber {reader : Reader} {root : Json} (top : reader.TopNumber)
    (h : reader.document numero = some root)
    : ∃ value, root = .number value := by
  match reader, top with
  | .done (.number value) _, _ => exact ⟨value, (Option.some.inj h).symm⟩
  | .inside [] (.number numeral raw), _ =>
    simp only [Reader.document] at h
    split at h
    · exact ⟨_, (Option.some.inj h).symm⟩
    · cases h

/-- When the beginning of a JSON text has a document, only white space follows it and it is
the document of the text, unless both are numbers.
-/
theorem IsText.parse_front {front behind : Str} {root item : Json}
    (h : IsText numero (front ++ behind) root) (parsed : parse numero front = some item)
    : (item = root ∧ behind.all blank) ∨ ∃ m n, item = .number m ∧ root = .number n := by
  obtain ⟨whole, clean⟩ := h
  rw [parse, read_append] at whole
  rw [read_append] at clean
  rw [parse] at parsed
  cases reached : read numero front with
  | failed => simp [reached, Reader.document] at parsed
  | done v noted =>
      rw [reached] at parsed
      rw [reached, foldl_done] at whole clean
      obtain rfl := Option.some.inj parsed
      rw [Reader.clean, Bool.and_eq_true] at clean
      exact Or.inl ⟨Option.some.inj whole, clean.2⟩
  | inside frames phase =>
      rw [reached] at parsed whole
      have top : (Reader.inside frames phase).TopNumber := by
        match frames, phase, parsed with
        | [], .number _ _, _ => trivial
      obtain ⟨m, rfl⟩ := document_topNumber top parsed
      obtain ⟨n, rfl⟩ := document_topNumber (foldl_topNumber top behind) whole
      exact Or.inr ⟨m, n, rfl, rfl⟩

/-- A terminator ends every text, by the cases of the step. -/
theorem step_nul (reader : Reader)
    : step numero reader nul = .failed ∨ ∃ v, step numero reader nul = .done v false := by
  have notBlank : blank nul = false := rfl
  have other : nul ≠ ',' ∧ nul ≠ ':' ∧ nul ≠ '"' ∧ nul ≠ ']' ∧ nul ≠ '\x7d' := by decide
  have behind (frames : List Frame) : afterValue frames nul = .failed := by
    simp [afterValue, notBlank, other]
  cases reader with
  | failed => exact Or.inl rfl
  | done v clean => exact Or.inr ⟨v, by rw [step, notBlank, Bool.and_false]⟩
  | inside frames phase =>
      cases phase with
      | value first =>
          left
          have opened : openValue frames nul = .failed := rfl
          simp [step, notBlank, opened, other]
      | name members first => left; simp [step, notBlank, other]
      | colon members name => left; simp [step, notBlank, other]
      | comma => exact Or.inl (behind frames)
      | string key raw quoted => left; cases quoted <;> simp [step, inString, nul, isHex]
      | literal word count =>
          left
          have absent : nul ∉ word.text := by
            cases word with
            | bool value => cases value <;> decide
            | null => decide
          have letter : word.text[count]? ≠ some nul := fun found =>
            absent (List.mem_of_getElem? found)
          simp [step, letter]
      | number numeral raw =>
          have stop : numeral.next nul = none := by cases numeral <;> rfl
          simp only [step, stop]
          split
          · split
            · exact Or.inl (behind _)
            · exact Or.inr ⟨_, by rw [notBlank]⟩
            · exact Or.inl rfl
          · exact Or.inl rfl

theorem IsText.nul_free {text : Str} {root : Json} (h : IsText numero text root)
    : nul ∉ text := by
  intro member
  obtain ⟨front, behind, rfl⟩ := List.append_of_mem member
  obtain ⟨whole, clean⟩ := h
  rw [parse, read_append, List.foldl_cons] at whole
  rw [read_append, List.foldl_cons] at clean
  rcases step_nul (read numero front) with failed | ⟨v, done⟩
  · rw [failed, foldl_failed] at whole
    cases whole
  · rw [done, foldl_done] at clean
    cases clean

example
    : ((parse (fun _ => 7) "\x7b\"a\": [1, true], \"b\" :\"\\u0041\"\x7d 8".toList).bind
        (·.stringAt ["b"]))
      = some ['A'] := by
  decide +kernel

end JsonText

end CText
