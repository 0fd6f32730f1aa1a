import EspHttpControl.Serial.Sensores
import Mathlib.Data.List.Count

/-! Decoding a frame of the serial line and storing its readings.
`separar` is the first half of `parse_data`, up to the comma count; `allocateData` is the
storing half. Log output is left out.
-/

namespace EspHttpControl.Serial

open CText

/-- What `parse_data` takes from a payload before it stores anything. -/
structure Trama where
  portMin : UInt8
  portMax : UInt8
  module : UInt8
  sensorData : Str
deriving DecidableEq, Repr

/-- `strtok`, then `(uint8_t) strtoul` of the token; a NULL token is a fault. -/
def numeroSiguiente (delims : Str) (cursor : Option Str) : Except Fault (UInt8 × Option Str) :=
  match strtok delims cursor with
  | (none, _) => .error .nullPointer
  | (some token, resto) => .ok ((strtoul token).toUInt8, resto)

/-- The size of `UART_Payload`. -/
def uartPayloadSize : Nat := 150

/-- `parse_data` up to the comma count, on the cells that the data pointer leads to: `none`
when the payload is refused.
-/
def separar (data : List Char) : Except Fault (Option Trama) :=
  let payload := cstr data
  if uartPayloadSize ≤ payload.length then .error .payloadOverflow
  else if 'p' ∉ payload then .ok none
  else if '-' ∉ payload then .ok none
  else if 'd' ∉ payload then .ok none
  else if 'm' ∉ payload then .ok none
  else do
    let (portMin, resto) ← numeroSiguiente ['p', '-'] (some payload)
    let (portMax, resto) ← numeroSiguiente ['d'] resto
    let (sensorData, resto) := strtok ['m'] resto
    let (module, _) ← numeroSiguiente [] resto
    if module = 0 then .ok none
    else
      match sensorData with
      | none => .error .nullPointer
      | some sensorData =>
        let commaCount := UInt8.ofNat (sensorData.count ',')
        if (commaCount.toNat : Int) ≠ portMax.toNat - portMin.toNat then .ok none
        else .ok (some ⟨portMin, portMax, module, sensorData⟩)

/-- `while (port <= port_max)`, reading one token in each turn; a turn without a token left
reads past the frame.
-/
def asignar (turno : SerialRam → UInt8 → Str → Except Fault SerialRam) (portMax : UInt8)
    : UInt8 → UInt8 → List Str → SerialRam → Except Fault SerialRam
  | port, i, tokens, s =>
    if port ≤ portMax then
      match tokens with
      | [] => .error .tokensExceeded
      | token :: rest => do
        let s ← turno s i token
        asignar turno portMax (port + 1) (i + 1) rest s
    else .ok s

/-- Read a token and store the record in cell `i`. -/
def guardar {α : Type} {n : Nat} (p : Place SerialRam α n) (lee : Str → Except Fault α)
    (s : SerialRam) (i : UInt8) (token : Str)
    : Except Fault SerialRam := do
  let x ← lee token
  match p.store s i.toNat x with
  | some s => .ok s
  | none => .error .arrayExceeded

def leeLectura (token : Str) : Except Fault Lectura :=
  .ok ⟨atoi token⟩

def leeAnalogico (token : Str) : Except Fault Analogicos := do
  let splitted := (splitSensors token [':']).1
  return ⟨atoi (← campo splitted 0), atoi (← campo splitted 1)⟩

def leeTanque (token : Str) : Except Fault Tanques := do
  let splitted := (splitSensors token [':']).1
  return ⟨atoi (← campo splitted 0), atoi (← campo splitted 1), atoi (← campo splitted 2),
    atoi (← campo splitted 3), atoi (← campo splitted 4)⟩

/-- One turn of the position branch: the fix is only ever set. `atof` gives the bits of the
float that a text denotes.
-/
def guardarGPS (atof : Str → UInt32) (s : SerialRam) (i : UInt8) (token : Str)
    : Except Fault SerialRam := do
  let splitted := (splitSensors token [':']).1
  match s.sensorGPS[i.toNat]? with
  | none => .error .arrayExceeded
  | some previo =>
    guardar enSensorGPS (fun _ => do
      return {
        valor1 := if (← campo splitted 0) = "true".toList then true else previo.valor1
        valor2 := some (← campo splitted 1)
        valor3 := atof (← campo splitted 2)
        valor4 := atof (← campo splitted 3)
        valor5 := (atoi (← campo splitted 4)).toUInt32.toUInt16
        valor6 := (atoi (← campo splitted 5)).toUInt32.toUInt16
        valor7 := (atoi (← campo splitted 6)).toUInt32.toUInt16
        valor8 := (atoi (← campo splitted 7)).toUInt32.toUInt16
      }) s i token

/-- The position that `allocate_data` always ends with; the coordinates are 41.2610583 and
1.7750433.
-/
def gpsFijo : GPS :=
  ⟨true, some "1677863090000".toList, 0x42250b53, 0x3fe3349e, 3, 52, 5, 354⟩

/-- The turn of the storing loop that a module selects; no loop for the other modules. -/
def turnoDe (atof : Str → UInt32) (module : UInt8)
    : Option (SerialRam → UInt8 → Str → Except Fault SerialRam) :=
  if module = ModulosApp.temperatureSensors.num then some (guardar enTemperatura leeLectura)
  else if module = ModulosApp.digitalInputSensors.num then
    some (guardar enDigitalInput leeLectura)
  else if module = ModulosApp.liquidoSensors.num then some (guardar enTanque leeTanque)
  else if module = ModulosApp.analogicoSensors.num then some (guardar enAnalogico leeAnalogico)
  else if module = ModulosApp.gpsSensors.num then some (guardarGPS atof)
  else if module = ModulosApp.digitalOutputSensors.num then
    some (guardar enInterruptor leeLectura)
  else if module = ModulosApp.ventiladorSensors.num then some (guardar enVentilador leeLectura)
  else if module = ModulosApp.inclinacionSensors.num then
    -- the readings are split, but the lines that store them are commented out
    some fun s _ _ => .ok s
  else none

/-- The `switch` of `allocate_data`. -/
def asignarModulo (atof : Str → UInt32) (portMin portMax module : UInt8)
    (sensorData : List Str) (s : SerialRam)
    : Except Fault SerialRam :=
  match turnoDe atof module with
  | some turno => asignar turno portMax portMin 0 sensorData s
  | none => .ok s

/-- `allocate_data` -/
def allocateData (atof : Str → UInt32) (portMin portMax module : UInt8)
    (sensorData : List Str) (s : SerialRam)
    : Except Fault SerialRam := do
  let s ← asignarModulo atof portMin portMax module sensorData s
  return { s with sensorGPS := Vector.replicate 1 gpsFijo }

/-- `parse_data` -/
def parseData (atof : Str → UInt32) (data : List Char) (s : SerialRam)
    : Except Fault (EspErr × SerialRam) := do
  match ← separar data with
  | none => return (.espFail, { s with notParsingData := true })
  | some trama =>
    let splitted := (splitSensors trama.sensorData [',']).1
    let s ← allocateData atof trama.portMin trama.portMax trama.module splitted s
    return (.espOk, { s with notParsingData := true })

-----------------------------------------------------------------------------------------
-- What the decoding reads from a well-formed frame
-----------------------------------------------------------------------------------------

/-- The frame `p<a>-<b>d<fields joined by ','>m<m>`. -/
def textoTrama (a b m : UInt8) (campos : List Str) : Str :=
  'p' :: sprintD a.toNat ++ '-' :: sprintD b.toNat ++ 'd' :: [','].intercalate campos
    ++ 'm' :: sprintD m.toNat

theorem strtoul_byte (n : UInt8) : (strtoul (sprintD n.toNat)).toUInt8 = n := by
  have bound : n.toNat < 2 ^ 32 := Nat.lt_trans n.toNat_lt (by decide)
  have printed : sprintD n.toNat = Nat.toDigits 10 n.toNat := rfl
  rw [printed, strtoul_toDigits bound, UInt32.toUInt8_ofNat', UInt8.ofNat_toNat]

theorem isDigit_sprintD_byte {n : UInt8} {c : Char} (member : c ∈ sprintD n.toNat)
    : c.isDigit = true :=
  toDigits_isDigit member

/-- Delimiters that are no digits do not cut a printed byte. -/
theorem free_sprintD_byte {delims : Str} (digits : ∀ d ∈ delims, d.isDigit = false) (n : UInt8)
    : ∀ c ∈ sprintD n.toNat, delims.contains c = false := by
  intro c member
  by_contra found
  rw [Bool.not_eq_false, List.contains_iff_mem] at found
  exact Bool.false_ne_true ((digits c found).symm.trans (isDigit_sprintD_byte member))

/-- A printed byte in front of a delimiter is read, and the cursor moves behind it. -/
theorem numeroSiguiente_run {delims rest : Str} {d : Char} (n : UInt8)
    (digits : ∀ c ∈ delims, c.isDigit = false) (sep : d ∈ delims)
    : numeroSiguiente delims (some (sprintD n.toNat ++ d :: rest)) = .ok (n, some rest) := by
  have cut : strtok delims (some (sprintD n.toNat ++ d :: rest))
      = (some (sprintD n.toNat), some rest) :=
    strtok_run (sprintD_ne_nil n.toNat) (free_sprintD_byte digits n)
      (List.contains_iff_mem.mpr sep)
  simp only [numeroSiguiente, cut, strtoul_byte]

theorem numeroSiguiente_last (n : UInt8)
    : numeroSiguiente [] (some (sprintD n.toNat)) = .ok (n, none) := by
  have cut : strtok [] (some (sprintD n.toNat)) = (some (sprintD n.toNat), none) :=
    strtok_last (sprintD_ne_nil n.toNat) fun _ _ => rfl
  simp only [numeroSiguiente, cut, strtoul_byte]

theorem nul_not_mem_textoTrama {campos : List Str} (clean : ∀ campo ∈ campos, nul ∉ campo)
    (a b m : UInt8)
    : nul ∉ textoTrama a b m campos := by
  have digit (n : UInt8) : nul ∉ sprintD n.toNat := fun member =>
    Bool.false_ne_true ((isDigit_sprintD_byte member).symm.trans (by decide)).symm
  have joined : nul ∉ [','].intercalate campos := by
    intro member
    rcases mem_intercalate member with sep | ⟨campo, among, inside⟩
    · exact absurd sep (by decide)
    · exact clean campo among inside
  have letters : nul ≠ 'p' ∧ nul ≠ '-' ∧ nul ≠ 'd' ∧ nul ≠ 'm' := by decide
  simp only [textoTrama, List.mem_append, List.mem_cons, List.cons_append]
  simp [digit, joined, letters]

/-- A frame with nonempty fields is decoded into exactly its parts when its module is not
zero and it has one field for each port; otherwise it is refused.
-/
theorem separar_textoTrama {a b m : UInt8} {campos : List Str} (some_field : campos ≠ [])
    (nonempty : ∀ campo ∈ campos, campo ≠ [])
    (clean : ∀ campo ∈ campos, ',' ∉ campo ∧ 'm' ∉ campo ∧ nul ∉ campo)
    (short : (textoTrama a b m campos).length < uartPayloadSize) (rest : List Char)
    : separar (textoTrama a b m campos ++ nul :: rest)
      = .ok (if m ≠ 0 ∧ (campos.length : Int) = b.toNat - a.toNat + 1
          then some ⟨a, b, m, [','].intercalate campos⟩ else none) := by
  have copied : cstr (textoTrama a b m campos ++ nul :: rest) = textoTrama a b m campos :=
    cstr_append_nul (nul_not_mem_textoTrama (fun campo among => (clean campo among).2.2) a b m)
  have free : ∀ c ∈ [','].intercalate campos, ['m'].contains c = false := by
    intro c member
    rcases mem_intercalate member with rfl | ⟨campo, among, inside⟩
    · rfl
    · by_contra found
      have same : c = 'm' := by simpa using found
      exact (clean campo among).2.1 (same ▸ inside)
  obtain ⟨first, others, rfl⟩ := List.exists_cons_of_ne_nil some_field
  have full : [','].intercalate (first :: others) ≠ [] :=
    intercalate_ne_nil (nonempty first (by simp))
  have skipped (s : Str) : numeroSiguiente ['p', '-'] (some ('p' :: s))
      = numeroSiguiente ['p', '-'] (some s) := by
    rw [numeroSiguiente, strtok_skip (by decide), ← numeroSiguiente]
  -- the cuts behind the leading 'p', each at the first delimiter of its call
  have portMin (s : Str) : numeroSiguiente ['p', '-'] (some (sprintD a.toNat ++ '-' :: s))
      = .ok (a, some s) :=
    numeroSiguiente_run a (by simp) (by simp)
  have portMax (s : Str) : numeroSiguiente ['d'] (some (sprintD b.toNat ++ 'd' :: s))
      = .ok (b, some s) :=
    numeroSiguiente_run b (by simp) (by simp)
  have sensorData (s : Str)
      : strtok ['m'] (some ([','].intercalate (first :: others) ++ 'm' :: s))
        = (some ([','].intercalate (first :: others)), some s) :=
    strtok_run full free (by decide)
  have commas : ([','].intercalate (first :: others)).count ',' = others.length :=
    count_intercalate fun campo among => (clean campo among).1
  have few : others.length < 256 := by
    have counted : ([','].intercalate (first :: others)).count ','
        ≤ ([','].intercalate (first :: others)).length := List.count_le_length
    simp only [textoTrama, List.length_append, List.length_cons, uartPayloadSize] at short
    omega
  have nested : textoTrama a b m (first :: others)
      = 'p' :: (sprintD a.toNat ++ '-' :: (sprintD b.toNat
        ++ 'd' :: ([','].intercalate (first :: others) ++ 'm' :: sprintD m.toNat))) := by
    simp [textoTrama]
  have letters : 'p' ∈ textoTrama a b m (first :: others)
      ∧ '-' ∈ textoTrama a b m (first :: others)
      ∧ 'd' ∈ textoTrama a b m (first :: others)
      ∧ 'm' ∈ textoTrama a b m (first :: others) := by
    simp [textoTrama]
  rw [separar, copied]
  simp only [Nat.not_le.mpr short, letters, not_true_eq_false, ↓reduceIte]
  rw [nested, skipped, portMin]
  simp only [bind, Except.bind, portMax, sensorData, numeroSiguiente_last, commas,
    UInt8.toNat_ofNat_of_lt' few]
  by_cases zero : m = 0
  · simp [zero]
  · have fit : (others.length : Int) = b.toNat - a.toNat
        ↔ ((first :: others).length : Int) = b.toNat - a.toNat + 1 := by
      rw [List.length_cons]
      omega
    simp only [zero, ↓reduceIte, ne_eq, not_false_eq_true, true_and, ite_not, ← fit]
    exact (apply_ite Except.ok _ _ _).symm

-----------------------------------------------------------------------------------------
-- What the storing loop leaves behind
-----------------------------------------------------------------------------------------

/-- The loop over readable tokens fills the array from its first free cell on and stops with
the last port. Witness: induction on the tokens, with the cells filled so far as the state.
-/
theorem asignar_guardar {α : Type} {n : Nat} {lee : Str → Except Fault α} {portMax : UInt8}
    {tokens : List Str} {valores : List α} (p : Place SerialRam α n)
    (legibles : List.Forall₂ (fun token x => lee token = .ok x) tokens valores)
    (small : n ≤ 256) (last : portMax ≠ 255) (s : SerialRam)
    : ∀ (port : UInt8) (front : List α),
        port.toNat + tokens.length = portMax.toNat + 1
        → front.length + tokens.length ≤ n
        → asignar (guardar p lee) portMax port (UInt8.ofNat front.length) tokens
            (p.fill s front)
          = .ok (p.fill s (front ++ valores)) := by
  have below : portMax.toNat < 255 := by
    have bound := portMax.toNat_lt
    have ne : portMax.toNat ≠ 255 := fun same => last (UInt8.toNat_inj.mp same)
    omega
  induction legibles with
  | nil =>
      intro port front ports room
      have done : ¬port ≤ portMax := by
        rw [UInt8.le_iff_toNat_le]
        simp at ports
        omega
      rw [asignar, if_neg done, List.append_nil]
  | @cons token x tokens valores leido _ ih =>
      intro port front ports room
      simp only [List.length_cons] at ports room
      have more : port ≤ portMax := by
        rw [UInt8.le_iff_toNat_le]
        omega
      have cell : (UInt8.ofNat front.length).toNat = front.length :=
        UInt8.toNat_ofNat_of_lt' (by simp only [UInt8.size]; omega)
      have turn : guardar p lee (p.fill s front) (UInt8.ofNat front.length) token
          = .ok (p.fill s (front ++ [x])) := by
        have stored := p.store_fill (by omega : front.length < n) s x
        simp only [guardar, leido, cell, bind, Except.bind, stored]
      have next : UInt8.ofNat front.length + 1 = UInt8.ofNat (front ++ [x]).length := by
        simp
      have successor : (port + 1).toNat = port.toNat + 1 := by
        have one : (1 : UInt8).toNat = 1 := rfl
        rw [UInt8.toNat_add, one]
        omega
      have later := ih (port + 1) (front ++ [x]) (by omega)
        (by simp only [List.length_append, List.length_singleton]; omega)
      rw [asignar, if_pos more]
      simp only [bind, Except.bind, turn]
      rw [next, later, List.append_assoc, List.singleton_append]

end EspHttpControl.Serial
