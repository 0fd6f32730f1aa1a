import EspHttpControl.CText.Block
import EspHttpControl.CText.Fields
import EspHttpControl.Serial.Sensores

/-! The array that `split_sensors` grows token by token, against the fields of the string.
-/

namespace EspHttpControl.Serial

open CText

/-- `token_sensors_array` as a block of the heap, with the counter `*i`. -/
structure Separada where
  tokenSensorsArray : Block Str
  i : UInt8

namespace Separada

/-- The body of the loop, with a copy of the token; `none` is a write outside the block. -/
def guarda (s : Separada) (tokenSensors : Str) : Option Separada :=
  let array := realloc s.tokenSensorsArray (s.i.toNat + 1)
  (poke array s.i.toNat tokenSensors).map fun array => ⟨array, s.i + 1⟩

/-- What is left for `strtok`, with one more for a string than for NULL. -/
def resto (cursor : Option Str) : Nat := cursor.elim 0 fun text => text.length + 1

/-- A call that finds a token leaves less for the next one. -/
theorem resto_strtok {tokChar token : Str} {cursor next : Option Str}
    (called : strtok tokChar cursor = (some token, next))
    : resto next < resto cursor := by
  cases cursor with
  | none => cases called
  | some text =>
      have fewer : (text.dropWhile tokChar.contains).length ≤ text.length :=
        (List.dropWhile_sublist _).length_le
      rw [strtok] at called
      split at called
      · cases called
      · next c cs kept =>
        have shorter : (cs.dropWhile (!tokChar.contains ·)).length ≤ cs.length :=
          (List.dropWhile_sublist _).length_le
        rw [kept, List.length_cons] at fewer
        dsimp only at called
        split at called
        · obtain rfl := (Prod.mk.inj called).2
          exact Nat.succ_pos _
        · next d rest left =>
          obtain rfl := (Prod.mk.inj called).2
          rw [left, List.length_cons] at shorter
          simp only [resto, Option.elim_some]
          omega

/-- The loop of `split_sensors` from a call of `strtok` on. -/
def bucle (tokChar : Str) (s : Separada) (cursor : Option Str) : Option Separada :=
  match _called : strtok tokChar cursor with
  | (none, _) => some s
  | (some tokenSensors, next) => (s.guarda tokenSensors).bind fun s => bucle tokChar s next
termination_by resto cursor
decreasing_by exact resto_strtok _called

/-- `split_sensors`, which starts with no array. -/
def splitSensors (tokenCopy tokChar : Str) : Option Separada :=
  bucle tokChar ⟨[], 0⟩ (some tokenCopy)

-----------------------------------------------------------------------------------------
-- The loop
-----------------------------------------------------------------------------------------

/-- The loop stores the tokens of the calls one by one, by induction on the fuel of the calls. -/
theorem bucle_eq (tokChar : Str) {fuel : Nat} {cursor : Option Str} (enough : resto cursor < fuel)
    (s : Separada)
    : bucle tokChar s cursor = (strtokAll tokChar fuel cursor).foldlM guarda s := by
  induction fuel generalizing cursor s with
  | zero => exact absurd enough (Nat.not_lt_zero _)
  | succ fuel ih =>
      rw [bucle, strtokAll]
      split
      · next none' called => rw [called]; rfl
      · next token next called =>
        have fewer := resto_strtok called
        rw [called, List.foldlM_cons]
        exact congrArg _ (funext fun s => ih (by omega) s)

/-- A turn appends its token, as long as the counter does not wrap. -/
theorem guarda_eq (tokens : List Str) (few : tokens.length < 256) (token : Str)
    : guarda ⟨tokens.map some, UInt8.ofNat tokens.length⟩ token
      = some ⟨(tokens ++ [token]).map some, UInt8.ofNat (tokens ++ [token]).length⟩ := by
  have place : (UInt8.ofNat tokens.length).toNat = tokens.length :=
    UInt8.toNat_ofNat_of_lt' few
  have next : UInt8.ofNat tokens.length + 1 = UInt8.ofNat (tokens ++ [token]).length := by
    rw [List.length_append, UInt8.ofNat_add]
    rfl
  simp only [guarda, place]
  rw [realloc_succ, poke_spare, Option.map_some, next]

/-- The turns append their tokens in order, by induction on the tokens. -/
theorem foldlM_guarda (before tokens : List Str) (few : before.length + tokens.length ≤ 256)
    : tokens.foldlM guarda ⟨before.map some, UInt8.ofNat before.length⟩
      = some ⟨(before ++ tokens).map some, UInt8.ofNat (before ++ tokens).length⟩ := by
  induction tokens generalizing before with
  | nil => rw [List.append_nil]; rfl
  | cons token rest ih =>
      rw [List.length_cons] at few
      have more := ih (before ++ [token]) (by rw [List.length_append, List.length_singleton]; omega)
      rw [List.append_assoc, List.singleton_append] at more
      rw [List.foldlM_cons, guarda_eq before (by omega) token]
      exact more

/-- For fewer than 256 fields the array holds the tokens of the model without a heap, and the
counter is its counter.
-/
theorem splitSensors_refina (tokenCopy tokChar : Str)
    (few : (fields tokChar tokenCopy).length < 256)
    : splitSensors tokenCopy tokChar
      = some ⟨(Serial.splitSensors tokenCopy tokChar).1.map some,
          (Serial.splitSensors tokenCopy tokChar).2⟩ := by
  have enough : resto (some tokenCopy) < tokenCopy.length + 2 := Nat.lt_succ_self _
  have turns := foldlM_guarda [] (fields tokChar tokenCopy) (by simpa using Nat.le_of_lt few)
  rw [splitSensors, bucle_eq tokChar enough,
    strtokAll_eq_fields tokChar (tokenCopy.length + 2) tokenCopy (by omega), Serial.splitSensors,
    strtokAll_eq_fields tokChar (tokenCopy.length + 1) tokenCopy (Nat.lt_succ_self _)]
  exact turns

theorem toNat_splitSensors_snd (tokenCopy tokChar : Str)
    (few : (fields tokChar tokenCopy).length < 256)
    : (Serial.splitSensors tokenCopy tokChar).2.toNat = (fields tokChar tokenCopy).length := by
  rw [Serial.splitSensors, strtokAll_eq_fields tokChar _ tokenCopy (Nat.lt_succ_self _)]
  exact UInt8.toNat_ofNat_of_lt' few

/-- For a string shorter than 400 bytes the array holds the maximal nonempty runs between the
delimiters, in order, and the counter is their number; fields that are joined by a delimiter come
back, with any delimiters around them.
-/
theorem splitSensors_exacta {tokenCopy : Str} (short : tokenCopy.length < 400) (tokChar : Str)
    : ∃ s spans, splitSensors tokenCopy tokChar = some s
        ∧ Spans tokChar tokenCopy spans
        ∧ s.tokenSensorsArray = spans.map (fun span => some (cut tokenCopy span))
        ∧ s.i.toNat = spans.length
        ∧ ∀ d parts before after,
            tokChar.contains d = true
            → (∀ part ∈ parts, part ≠ [] ∧ ∀ c ∈ part, tokChar.contains c = false)
            → (∀ c ∈ before ++ after, tokChar.contains c = true)
            → tokenCopy = before ++ [d].intercalate parts ++ after
            → s.tokenSensorsArray = parts.map some ∧ s.i.toNat = parts.length := by
  have bound := length_fields_le tokChar tokenCopy
  obtain ⟨spans, exact', same⟩ := fields_spans tokChar tokenCopy
  have few : (fields tokChar tokenCopy).length < 256 := by omega
  have array := splitSensors_fst tokenCopy tokChar
  have count := toNat_splitSensors_snd tokenCopy tokChar few
  refine ⟨_, spans, splitSensors_refina tokenCopy tokChar few, exact', ?_, ?_, ?_⟩
  · dsimp only
    rw [array, same, List.map_map]
    rfl
  · dsimp only
    rw [count, same, List.length_map]
  · rintro d parts before after sep whole seps rfl
    have joined := fields_join sep (fun part member => (whole part member).1)
      (fun part member => (whole part member).2)
      (fun c member => seps c (List.mem_append_left after member))
      (fun c member => seps c (List.mem_append_right before member))
    rw [joined] at array count
    exact ⟨congrArg _ array, count⟩

/-- Two fields of a line of readings, with delimiters around and between them. -/
theorem splitSensors_exacta_dos_campos
    : ∃ s spans, splitSensors "|12::ab:|".toList "|:".toList = some s
        ∧ Spans "|:".toList "|12::ab:|".toList spans
        ∧ s.tokenSensorsArray = spans.map (fun span => some (cut "|12::ab:|".toList span))
        ∧ s.i.toNat = spans.length
        ∧ ∀ d parts before after,
            "|:".toList.contains d = true
            → (∀ part ∈ parts, part ≠ [] ∧ ∀ c ∈ part, "|:".toList.contains c = false)
            → (∀ c ∈ before ++ after, "|:".toList.contains c = true)
            → "|12::ab:|".toList = before ++ [d].intercalate parts ++ after
            → s.tokenSensorsArray = parts.map some ∧ s.i.toNat = parts.length :=
  splitSensors_exacta (by decide) "|:".toList

end Separada

end EspHttpControl.Serial
