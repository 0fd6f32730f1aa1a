import EspHttpControl.Serial.ParseData

/-! Which payloads `parse_data` takes for frames.
The format is checked only by the presence of four letters; what the four calls of `strtok` cut
depends on where these letters stand.
-/

namespace EspHttpControl.Serial

open CText

/-- The call of `allocate_data` that `parse_data` makes. -/
structure Llamada where
  portMin : UInt8
  portMax : UInt8
  module : UInt8
  sensorData : List Str
deriving DecidableEq, Repr

/-- The fields of a frame as `split_sensors` hands them to `allocate_data`. -/
def Trama.llamada (trama : Trama) : Llamada :=
  ⟨trama.portMin, trama.portMax, trama.module, (splitSensors trama.sensorData [',']).1⟩

/-- The call that a payload leads to, if it is not refused. -/
def llamada (data : List Char) : Except Fault (Option Llamada) :=
  (separar data).map (·.map Trama.llamada)

/-- A refused payload only sets the event bit. -/
theorem parseData_rehusa {data : List Char} (rehusada : llamada data = .ok none)
    (atof : Str → UInt32) (ram : SerialRam)
    : parseData atof data ram = .ok (.espFail, { ram with notParsingData := true }) := by
  rw [llamada] at rehusada
  rw [parseData]
  cases cut : separar data with
  | error fault =>
      rw [cut] at rehusada
      cases rehusada
  | ok leida =>
      cases leida with
      | none => rfl
      | some trama =>
          rw [cut] at rehusada
          cases Except.ok.inj rehusada

/-- Any other payload is stored by the call that it leads to. -/
theorem parseData_llama {data : List Char} {l : Llamada} (llama : llamada data = .ok (some l))
    (atof : Str → UInt32) (ram : SerialRam)
    : parseData atof data ram = do
        let ram ← allocateData atof l.portMin l.portMax l.module l.sensorData ram
        return (.espOk, { ram with notParsingData := true }) := by
  rw [llamada] at llama
  rw [parseData]
  cases cut : separar data with
  | error fault =>
      rw [cut] at llama
      cases llama
  | ok leida =>
      cases leida with
      | none =>
          rw [cut] at llama
          cases Except.ok.inj llama
      | some trama =>
          rw [cut] at llama
          obtain rfl := Option.some.inj (Except.ok.inj llama)
          rfl

-----------------------------------------------------------------------------------------
-- Well-formed frames
-----------------------------------------------------------------------------------------

/-- Splitting the data of a well-formed frame gives its fields back. -/
theorem llamada_textoTrama {a b m : UInt8} {campos : List Str} (some_field : campos ≠ [])
    (nonempty : ∀ campo ∈ campos, campo ≠ [])
    (clean : ∀ campo ∈ campos, ',' ∉ campo ∧ 'm' ∉ campo ∧ nul ∉ campo)
    (short : (textoTrama a b m campos).length < uartPayloadSize) (rest : List Char)
    : llamada (textoTrama a b m campos ++ nul :: rest)
      = .ok (if m ≠ 0 ∧ (campos.length : Int) = b.toNat - a.toNat + 1
          then some ⟨a, b, m, campos⟩ else none) := by
  have cut : (splitSensors ([','].intercalate campos) [',']).1 = campos := by
    rw [splitSensors_fst]
    exact fields_intercalate nonempty fun campo among => (clean campo among).1
  rw [llamada, separar_textoTrama some_field nonempty clean short]
  refine congrArg Except.ok ?_
  split
  · exact congrArg (fun tokens : List Str => some (Llamada.mk a b m tokens)) cut
  · rfl

/-- A frame with nonempty fields is stored, with exactly its parts, if its module is not zero and
it has one field for each port; otherwise it is refused and leaves the readings as they were. In
either case the event bit is set at the return. Witness: `llamada_textoTrama`.
-/
theorem parseData_decision {a b m : UInt8} {campos : List Str} (some_field : campos ≠ [])
    (nonempty : ∀ campo ∈ campos, campo ≠ [])
    (clean : ∀ campo ∈ campos, ',' ∉ campo ∧ 'm' ∉ campo ∧ nul ∉ campo)
    (short : (textoTrama a b m campos).length < uartPayloadSize) (rest : List Char)
    (atof : Str → UInt32) (ram : SerialRam)
    : (∀ l, llamada (textoTrama a b m campos ++ nul :: rest) = .ok (some l)
        ↔ l = ⟨a, b, m, campos⟩ ∧ m ≠ 0 ∧ (campos.length : Int) = b.toNat - a.toNat + 1)
      ∧ (m ≠ 0 ∧ (campos.length : Int) = b.toNat - a.toNat + 1
        → parseData atof (textoTrama a b m campos ++ nul :: rest) ram = do
            let ram ← allocateData atof a b m campos ram
            return (.espOk, { ram with notParsingData := true }))
      ∧ (¬(m ≠ 0 ∧ (campos.length : Int) = b.toNat - a.toNat + 1)
        → parseData atof (textoTrama a b m campos ++ nul :: rest) ram
          = .ok (.espFail, { ram with notParsingData := true }))
      ∧ ∀ err ram', parseData atof (textoTrama a b m campos ++ nul :: rest) ram = .ok (err, ram')
        → ram'.notParsingData = true := by
  have called := llamada_textoTrama some_field nonempty clean short rest
  have stored (fits : m ≠ 0 ∧ (campos.length : Int) = b.toNat - a.toNat + 1) :=
    parseData_llama (called.trans (by rw [if_pos fits])) atof ram
  have refused (misfit : ¬(m ≠ 0 ∧ (campos.length : Int) = b.toNat - a.toNat + 1)) :=
    parseData_rehusa (called.trans (by rw [if_neg misfit])) atof ram
  refine ⟨fun l => ?_, stored, refused, fun err ram' ended => ?_⟩
  · rw [called, Except.ok.injEq, Option.ite_none_right_eq_some, Option.some.injEq]
    constructor
    · exact fun made => ⟨made.2.symm, made.1⟩
    · exact fun made => ⟨made.2, made.1.symm⟩
  · by_cases fits : m ≠ 0 ∧ (campos.length : Int) = b.toNat - a.toNat + 1
    · rw [stored fits] at ended
      obtain ⟨after, -, last⟩ := ok_of_bind ended
      obtain ⟨-, rfl⟩ := Prod.mk.inj (Except.ok.inj last)
      rfl
    · rw [refused fits] at ended
      obtain ⟨-, rfl⟩ := Prod.mk.inj (Except.ok.inj ended)
      rfl

/-- Two temperatures, whose fields hold the letters of the other cuts, and a port too few. -/
theorem parseData_decision_letras
    : llamada ("p0-1dd-7,p3m1".toList ++ [nul])
        = .ok (some ⟨0, 1, 1, ["d-7".toList, "p3".toList]⟩)
      ∧ parseData (fun _ => 0) ("p1-1dd-7,p3m1".toList ++ [nul]) .inicial
        = .ok (.espFail, { SerialRam.inicial with notParsingData := true }) := by
  have nonempty : ∀ campo ∈ ["d-7".toList, "p3".toList], campo ≠ [] := by decide
  have clean : ∀ campo ∈ ["d-7".toList, "p3".toList], ',' ∉ campo ∧ 'm' ∉ campo ∧ nul ∉ campo := by
    decide
  have decision (a : UInt8)
      (short : (textoTrama a 1 1 ["d-7".toList, "p3".toList]).length < uartPayloadSize) :=
    parseData_decision (List.cons_ne_nil _ _) nonempty clean short [] (fun _ => 0) .inicial
  obtain ⟨accepted, -, -, -⟩ := decision 0 (by decide)
  obtain ⟨-, -, refused, -⟩ := decision 1 (by decide)
  exact ⟨(accepted _).mpr ⟨rfl, by decide⟩, refused (by decide)⟩

-----------------------------------------------------------------------------------------
-- Any payload
-----------------------------------------------------------------------------------------

/-- The letters whose presence is checked. -/
def letras : List Char := ['p', '-', 'd', 'm']

/-- What the second, the third and the last call of `strtok` are given. -/
def trasPortMin (payload : Str) : Str := afterRun ['p', '-'] payload

def trasPortMax (payload : Str) : Str := afterRun ['d'] (trasPortMin payload)

def trasDatos (payload : Str) : Str := afterRun ['m'] (trasPortMax payload)

/-- The frame that the four cuts give, whatever stands between them. -/
def cortes (payload : Str) : Trama :=
  {
    portMin := (strtoul (firstRun ['p', '-'] payload)).toUInt8
    portMax := (strtoul (firstRun ['d'] (trasPortMin payload))).toUInt8
    module := (strtoul (trasDatos payload)).toUInt8
    sensorData := firstRun ['m'] (trasPortMax payload)
  }

/-- The module is not zero and the commas are as many as the ports behind the first one. -/
def Trama.Admisible (trama : Trama) : Prop :=
  trama.module ≠ 0
  ∧ ((UInt8.ofNat (trama.sensorData.count ',')).toNat : Int)
    = trama.portMax.toNat - trama.portMin.toNat

instance (trama : Trama) : Decidable trama.Admisible := inferInstanceAs (Decidable (_ ∧ _))

theorem numeroSiguiente_some (delims s : Str)
    : numeroSiguiente delims (some s)
      = if firstRun delims s = [] then .error .nullPointer
        else .ok ((strtoul (firstRun delims s)).toUInt8, (strtok delims (some s)).2) := by
  have token := strtok_fst delims s
  rw [numeroSiguiente]
  rcases cut : strtok delims (some s) with ⟨_ | run, rest⟩
  · rw [cut] at token
    rw [if_pos (by_contra fun full => by rw [if_neg full] at token; cases token)]
  · rw [cut] at token
    obtain ⟨full, same⟩ := Option.ite_none_left_eq_some.mp token.symm
    obtain rfl := Option.some.inj same
    rw [if_neg full]

theorem numeroSiguiente_snd (delims next s : Str)
    : numeroSiguiente next (strtok delims (some s)).2
      = numeroSiguiente next (some (afterRun delims s)) := by
  rw [numeroSiguiente, numeroSiguiente, strtok_snd]

/-- A payload with all letters is cut into four parts: a NULL token is used if nothing is left for
the last one, and otherwise the parts decide.
-/
theorem separar_cortes {data : List Char} (short : (cstr data).length < uartPayloadSize)
    (todas : ∀ letra ∈ letras, letra ∈ cstr data)
    : separar data
      = if trasDatos (cstr data) = [] then .error .nullPointer
        else .ok (if (cortes (cstr data)).Admisible then some (cortes (cstr data)) else none) := by
  simp only [letras, List.forall_mem_cons, List.not_mem_nil, false_imp_iff, implies_true,
    and_true] at todas
  obtain ⟨p, minus, d, m⟩ := todas
  have first : firstRun ['p', '-'] (cstr data) ≠ [] := firstRun_of_mem d (by decide)
  have full (left : trasDatos (cstr data) ≠ [])
      : firstRun ['d'] (trasPortMin (cstr data)) ≠ []
        ∧ firstRun ['m'] (trasPortMax (cstr data)) ≠ [] := by
    refine ⟨firstRun_ne_nil fun none' => left ?_, firstRun_ne_nil left⟩
    rw [trasDatos, trasPortMax, none', afterRun_nil]
  rw [separar]
  simp only [Nat.not_le.mpr short, p, minus, d, m, not_true_eq_false, ↓reduceIte]
  rw [numeroSiguiente_some, if_neg first]
  simp only [bind, Except.bind]
  rw [numeroSiguiente_snd, numeroSiguiente_some, ← trasPortMin]
  by_cases left : trasDatos (cstr data) = []
  · rw [if_pos left]
    by_cases second : firstRun ['d'] (trasPortMin (cstr data)) = []
    · rw [if_pos second]
    · rw [if_neg second]
      dsimp only
      rw [strtok_snd, ← trasPortMax, numeroSiguiente_snd, numeroSiguiente_some, ← trasDatos,
        firstRun_none, if_pos left]
  · obtain ⟨second, third⟩ := full left
    rw [if_neg second, if_neg left]
    dsimp only
    rw [strtok_snd, ← trasPortMax, numeroSiguiente_snd, numeroSiguiente_some, ← trasDatos,
      firstRun_none, if_neg left, strtok_fst, if_neg third]
    dsimp only
    by_cases zero : (cortes (cstr data)).module = 0
    · rw [if_neg fun admisible : Trama.Admisible _ => admisible.1 zero]
      exact if_pos zero
    · by_cases fit : ((UInt8.ofNat ((cortes (cstr data)).sensorData.count ',')).toNat : Int)
          = (cortes (cstr data)).portMax.toNat - (cortes (cstr data)).portMin.toNat
      · have admisible : (cortes (cstr data)).Admisible := ⟨zero, fit⟩
        rw [if_pos admisible]
        exact (if_neg zero).trans (if_neg (not_not.mpr fit))
      · rw [if_neg fun admisible : Trama.Admisible _ => fit admisible.2]
        exact (if_neg zero).trans (if_pos fit)

/-- A payload without one of the letters is refused. -/
theorem separar_sin_letra {data : List Char} (short : (cstr data).length < uartPayloadSize)
    (falta : ¬∀ letra ∈ letras, letra ∈ cstr data)
    : separar data = .ok none := by
  rw [separar]
  simp only [Nat.not_le.mpr short, ↓reduceIte]
  by_contra accepted
  apply falta
  simp only [letras, List.forall_mem_cons, List.not_mem_nil, false_imp_iff, implies_true, and_true]
  by_contra missing
  apply accepted
  by_cases p : 'p' ∈ cstr data
  · by_cases minus : '-' ∈ cstr data
    · by_cases d : 'd' ∈ cstr data
      · have m : 'm' ∉ cstr data := fun m => missing ⟨p, minus, d, m⟩
        rw [if_neg (not_not.mpr p), if_neg (not_not.mpr minus), if_neg (not_not.mpr d), if_pos m]
      · rw [if_neg (not_not.mpr p), if_neg (not_not.mpr minus), if_pos d]
    · rw [if_neg (not_not.mpr p), if_pos minus]
  · rw [if_pos p]

theorem separar_larga {data : List Char} (long : uartPayloadSize ≤ (cstr data).length)
    : separar data = .error .payloadOverflow := by
  rw [separar]
  exact if_pos long

/-- The fields of a frame, empty ones among them. -/
def Trama.campos (trama : Trama) : List Str := trama.sensorData.splitOn ','

theorem Trama.campos_pos (trama : Trama) : 0 < trama.campos.length :=
  List.length_pos_iff.mpr (List.splitOn_ne_nil _ _)

/-- An accepted payload has its cuts as its frame, with one field for each port. -/
theorem separar_acepta {data : List Char} {trama : Trama} (leida : separar data = .ok (some trama))
    : trama.module ≠ 0
      ∧ trama.portMin.toNat + trama.campos.length = trama.portMax.toNat + 1 := by
  have short : (cstr data).length < uartPayloadSize := by
    by_contra long
    rw [separar_larga (Nat.not_lt.mp long)] at leida
    cases leida
  have todas : ∀ letra ∈ letras, letra ∈ cstr data := by
    by_contra falta
    rw [separar_sin_letra short falta] at leida
    cases Except.ok.inj leida
  rw [separar_cortes short todas] at leida
  split at leida
  · cases leida
  · obtain ⟨⟨module, commas⟩, same⟩ := Option.ite_none_right_eq_some.mp (Except.ok.inj leida)
    obtain rfl := Option.some.inj same
    have within : (cortes (cstr data)).sensorData.Sublist (cstr data) :=
      (firstRun_sublist _ _).trans ((afterRun_sublist _ _).trans (afterRun_sublist _ _))
    have few : (cortes (cstr data)).sensorData.count ',' < 256 := by
      have counted : (cortes (cstr data)).sensorData.count ','
          ≤ (cortes (cstr data)).sensorData.length := List.count_le_length
      have length := within.length_le
      rw [uartPayloadSize] at short
      omega
    rw [UInt8.toNat_ofNat_of_lt' few] at commas
    refine ⟨module, ?_⟩
    rw [Trama.campos, length_splitOn]
    omega

-----------------------------------------------------------------------------------------
-- Noise
-----------------------------------------------------------------------------------------

/-- The letters stand in the order of a frame, with something between each two of them. -/
def EnOrden (payload : Str) : Prop :=
  ∃ antes a b datos despues,
    payload = antes ++ 'p' :: (a ++ '-' :: (b ++ 'd' :: (datos ++ 'm' :: despues)))
    ∧ a ≠ [] ∧ b ≠ [] ∧ datos ≠ []

/-- What should hold of every payload: its copy stays inside its buffer, no NULL token is used,
and if it has the letters of a frame in another order, or nothing between two of them, it is
answered with `ESP_FAIL`.
-/
structure Resiste (atof : Str → UInt32) (data : List Char) (ram : SerialRam) : Prop where
  cabe : (cstr data).length < uartPayloadSize
  tokens : separar data ≠ .error .nullPointer
  rehusa : (∀ letra ∈ letras, letra ∈ cstr data) → ¬EnOrden (cstr data)
    → ∃ ram', parseData atof data ram = .ok (.espFail, ram')

/-- The payload is short, and if it has all letters then something is left for the last token,
and its cuts are admissible only where the letters stand in order.
-/
def Inofensivo (payload : Str) : Prop :=
  payload.length < uartPayloadSize
  ∧ ((∀ letra ∈ letras, letra ∈ payload)
    → trasDatos payload ≠ [] ∧ ((cortes payload).Admisible → EnOrden payload))

/-- Whatever the receiver queues resists the parser exactly if it is harmless up to its first
terminator. Witness: `separar_cortes`.
-/
theorem parseData_resiste_iff (atof : Str → UInt32) (bytes resto : List Char) (ram : SerialRam)
    : Resiste atof (bytes ++ nul :: resto) ram ↔ Inofensivo (cstr (bytes ++ nul :: resto)) := by
  constructor
  · intro resiste
    refine ⟨resiste.cabe, fun todas => ?_⟩
    have cut := separar_cortes resiste.cabe todas
    by_cases left : trasDatos (cstr (bytes ++ nul :: resto)) = []
    · rw [if_pos left] at cut
      exact absurd cut resiste.tokens
    · refine ⟨left, fun admisible => ?_⟩
      by_contra desorden
      obtain ⟨ram', refused⟩ := resiste.rehusa todas desorden
      rw [if_neg left, if_pos admisible] at cut
      have called : llamada (bytes ++ nul :: resto)
          = .ok (some (cortes (cstr (bytes ++ nul :: resto))).llamada) := by
        rw [llamada, cut]
        rfl
      rw [parseData_llama called] at refused
      obtain ⟨_, -, last⟩ := ok_of_bind refused
      cases (Prod.mk.inj (Except.ok.inj last)).1
  · intro inofensivo
    obtain ⟨short, harmless⟩ := inofensivo
    refine ⟨short, ?_, fun todas desorden => ?_⟩
    · by_cases todas : ∀ letra ∈ letras, letra ∈ cstr (bytes ++ nul :: resto)
      · rw [separar_cortes short todas, if_neg (harmless todas).1]
        exact nofun
      · rw [separar_sin_letra short todas]
        exact nofun
    · obtain ⟨left, orden⟩ := harmless todas
      have refused : llamada (bytes ++ nul :: resto) = .ok none := by
        rw [llamada, separar_cortes short todas, if_neg left,
          if_neg fun admisible => desorden (orden admisible)]
        rfl
      exact ⟨_, parseData_rehusa refused atof ram⟩

/-- The four letters alone leave no token for the last port. -/
theorem parseData_no_resiste
    : ¬∀ (atof : Str → UInt32) (bytes resto : List Char) (ram : SerialRam),
        1 ≤ bytes.length → bytes.length ≤ 1024 → Resiste atof (bytes ++ nul :: resto) ram := by
  intro claim
  have noise := claim (fun _ => 0) "p-dm".toList [] .inicial (by decide) (by decide)
  exact noise.tokens (by decide)

end EspHttpControl.Serial
