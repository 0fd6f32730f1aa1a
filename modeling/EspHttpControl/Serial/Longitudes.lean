import EspHttpControl.CText.Widths
import EspHttpControl.Serial.GpsPrevio
import EspHttpControl.Serial.PuntosWeb

/-! The room that the texts of the web frame need.
The buffers have fixed sizes and are filled by unchecked `strcat`; how much is written depends
on the registered keys, their ports, the flags and the digits of the stored readings.
-/

namespace EspHttpControl.Serial

open CText Nvs

/-- The size of `web_buffer` and of its copy in `endpoint_discriminator`. -/
def webBufferSize : Nat := 400

/-- The size of `TRANS` and its siblings. -/
def endpointSize : Nat := 100

/-- The size of `auxiliary_string`. -/
def auxiliarySize : Nat := 12

/-- The numbers that `web_buffer_constructor` prints into `auxiliary_string` for a key. -/
def impresos (fuera : Int32) (nvs : Almacen) (verificador : ModulosResponse) (ram : SerialRam)
    (key : KeyValue)
    : List Str :=
  let port := puerto nvs key
  let lecturas :=
    match ramaDe port with
    | none => []
    | some modulo =>
      if !verificador.marca modulo then []
      else if modulo = .gpsSensors then
        let gps := ram.gps
        [sprintD gps.valor1.toNat, sprintF gps.valor3, sprintF gps.valor4,
          sprintD gps.valor5.toNat]
      else (lectura fuera ram modulo (vectorPositions port).toNat).map fun v => sprintD v.toInt
  sprintD key.num.toNat :: sprintD port.toNat :: lecturas

/-- The memory that frames of the serial line can leave: each of them goes through
`parse_data`, which accepts or refuses it.
-/
def Guardable (atof : Str → UInt32) (ram : SerialRam) : Prop :=
  ∃ items : List (List Char),
    items.foldlM (fun ram data => return (← parseData atof data ram).2) SerialRam.inicial
      = (.ok ram : Except Fault SerialRam)

/-- What should hold of the texts: whenever the frame and the endpoints are built from the
loaded keys, each of them fits its buffer with a terminator, and so does every printed number.
-/
def Caben (fuera : Int32) (nvs : Almacen) (verificador : ModulosResponse) (ram : SerialRam)
    : Prop :=
  let keys := (loadKeysWithPortAssignedToRAM nvs).keysWithPorts
  ∀ webBuffer puntos,
    webBufferConstructor fuera nvs keys verificador ram = .ok webBuffer
    → endpointDiscriminator webBuffer = .ok puntos
    → webBuffer.length + 1 ≤ webBufferSize
      ∧ (∀ punto, (puntos punto).length + 1 ≤ endpointSize)
      ∧ ∀ key ∈ keys, ∀ numero ∈ impresos fuera nvs verificador ram key,
        numero.length + 1 ≤ auxiliarySize

/-- The width of the readings at a port: nothing for a port of no module, one character for a
module without an answer, 36 for the position, which is always the same text, and otherwise the
digits and signs of the readings with the colons between them.
-/
def anchoLecturas (fuera : Int32) (verificador : ModulosResponse) (ram : SerialRam)
    (port : UInt8)
    : Nat :=
  match ramaDe port with
  | none => 0
  | some modulo =>
    if !verificador.marca modulo then 1
    else if modulo = .gpsSensors then 36
    else
      ((lectura fuera ram modulo (vectorPositions port).toNat).map fun v => anchoD v.toInt).sum
        + (modulo.anchura - 1)

/-- The width of the segment of a key with its bar. -/
def anchoSegmento (fuera : Int32) (nvs : Almacen) (verificador : ModulosResponse)
    (ram : SerialRam) (key : KeyValue)
    : Nat :=
  cifras key.num.toNat + cifras (puerto nvs key).toNat + 3
    + anchoLecturas fuera verificador ram (puerto nvs key)

/-- The digits, signs and delimiters add up to what the buffers hold, for all registered keys
and for those of each endpoint; or nothing is built, since a position is to be shown that no
frame has brought yet.
-/
def Holgura (fuera : Int32) (nvs : Almacen) (verificador : ModulosResponse) (ram : SerialRam)
    : Prop :=
  let keys := KeyValue.all.filter (Registrada nvs ·)
  (verificador.gps = true ∧ ¬GpsListo ram ∧ MuestraGps keys nvs)
  ∨ (keys.map (anchoSegmento fuera nvs verificador ram)).sum + 2 ≤ webBufferSize
    ∧ ∀ punto : PuntoWeb,
      ((keys.filter (· ∈ punto.grupo)).map (anchoSegmento fuera nvs verificador ram)).sum + 2
        ≤ endpointSize

-----------------------------------------------------------------------------------------
-- What frames can leave
-----------------------------------------------------------------------------------------

/-- The position record is the one of the boot or the one that `allocate_data` writes, by
induction on the frames.
-/
theorem Guardable.sensorGPS {atof : Str → UInt32} {ram : SerialRam} (h : Guardable atof ram)
    : ram.sensorGPS = SerialRam.inicial.sensorGPS ∨ Rellenado ram := by
  obtain ⟨items, reached⟩ := h
  have scan (items : List (List Char)) (antes : SerialRam)
      (here : antes.sensorGPS = SerialRam.inicial.sensorGPS ∨ Rellenado antes)
      (reached : items.foldlM (fun ram data => return (← parseData atof data ram).2) antes
        = (.ok ram : Except Fault SerialRam))
      : ram.sensorGPS = SerialRam.inicial.sensorGPS ∨ Rellenado ram := by
    induction items generalizing antes with
    | nil => exact Except.ok.inj reached ▸ here
    | cons data rest ih =>
        rw [List.foldlM_cons] at reached
        obtain ⟨despues, step, later⟩ := ok_of_bind reached
        obtain ⟨⟨err, ram'⟩, parsed, last⟩ := ok_of_bind step
        obtain rfl := Except.ok.inj last
        refine ih _ ?_ later
        have received : recibir atof (some data) antes = .ok (err = .espOk, ram') := by
          rw [recibir, parsed]
          rfl
        by_cases refused : separar data = .ok none
        · have refusedItem : ∀ other ∈ some data, separar other = .ok none := fun _ member =>
            Option.some.inj member ▸ refused
          obtain ⟨_, same, kept⟩ := recibir_rechazado refusedItem atof antes
          obtain ⟨-, rfl⟩ := Prod.mk.inj (Except.ok.inj (received.symm.trans same))
          rcases here with boot | filled
          · exact Or.inl (kept.trans boot)
          · exact Or.inr (kept.trans filled)
        · exact Or.inr ((recibir_rellena received).mpr (Or.inr ⟨data, rfl, refused⟩))
  exact scan items _ (Or.inl rfl) reached

theorem Guardable.limpio {atof : Str → UInt32} {ram : SerialRam} (h : Guardable atof ram)
    : SinBarra ram := by
  intro timestamp found
  rcases h.sensorGPS with boot | filled
  · simp [boot, SerialRam.inicial] at found
  · rw [Rellenado] at filled
    simp only [filled] at found
    obtain rfl := Option.some.inj found
    decide

/-- A position that is shown is the one that `allocate_data` writes. -/
theorem Guardable.relleno {atof : Str → UInt32} {ram : SerialRam} (h : Guardable atof ram)
    (listo : GpsListo ram)
    : Rellenado ram := by
  rcases h.sensorGPS with boot | filled
  · simp [GpsListo, boot, SerialRam.inicial] at listo
  · exact filled

-----------------------------------------------------------------------------------------
-- The width of a segment
-----------------------------------------------------------------------------------------

theorem length_gpsFijo : gpsFijo.texto.map List.length = .ok 36 := by
  decide +kernel

/-- The text of a branch has the width that its readings need, by the branch of the port. -/
theorem length_cuerpo {atof : Str → UInt32} {fuera : Int32} {verificador : ModulosResponse}
    {ram : SerialRam} {port : UInt8} {texto : Str} (alcanzada : Guardable atof ram)
    (h : cuerpo fuera verificador ram port = .ok texto)
    : texto.length = anchoLecturas fuera verificador ram port := by
  rw [anchoLecturas]
  split
  · next rama =>
    rw [cuerpo_sin_rama rama] at h
    obtain rfl := Except.ok.inj h
    rfl
  · next modulo rama =>
    by_cases gps : modulo = .gpsSensors
    · subst gps
      obtain rfl := ramaDe_gps rama
      rw [cuerpo_gps] at h
      cases answered : verificador.gps with
      | false =>
          rw [answered] at h
          obtain rfl := Except.ok.inj h
          simp [ModulosResponse.marca, answered]
      | true =>
          rw [answered, if_pos rfl] at h
          have listo : GpsListo ram := by
            intro missing
            have missing : ram.gps.valor2 = none := missing
            rw [GPS.texto, missing] at h
            cases h
          have size := length_gpsFijo
          rw [← (alcanzada.relleno listo).gps, h] at size
          simpa [ModulosResponse.marca, answered] using Except.ok.inj size
    · rw [cuerpo_rama rama gps] at h
      obtain rfl := Except.ok.inj h
      cases answered : verificador.marca modulo with
      | false => simp [siResponde]
      | true =>
          simp only [siResponde, ↓reduceIte, Bool.not_true, Bool.false_eq_true, gps]
          rw [unidos, length_intercalate, List.map_map, List.length_map, length_lectura]
          congr 2
          exact List.map_congr_left fun v _ => length_sprintD v.toInt

theorem length_segmento {atof : Str → UInt32} {fuera : Int32} {nvs : Almacen}
    {verificador : ModulosResponse} {ram : SerialRam} {key : KeyValue} {texto : Str}
    (alcanzada : Guardable atof ram) (h : segmento fuera nvs verificador ram key = .ok texto)
    : texto.length + 1 = anchoSegmento fuera nvs verificador ram key := by
  obtain ⟨interior, body, last⟩ := ok_of_bind h
  obtain rfl := Except.ok.inj last
  have natural (n : Nat) : (sprintD n).length = cifras n := length_toDigits n
  rw [anchoSegmento, ← length_cuerpo alcanzada body]
  simp only [List.length_append, List.length_cons, natural]
  omega

/-- Each number that is printed has at most eleven characters, by the branch of the port. -/
theorem impresos_cortos {atof : Str → UInt32} {ram : SerialRam} (alcanzada : Guardable atof ram)
    (fuera : Int32) (nvs : Almacen) (verificador : ModulosResponse) (key : KeyValue)
    : ∀ numero ∈ impresos fuera nvs verificador ram key, numero.length + 1 ≤ auxiliarySize := by
  have byte (n : UInt8) : (sprintD n.toNat).length + 1 ≤ auxiliarySize := by
    have bound := n.toNat_lt
    have few : cifras n.toNat ≤ 3 := cifras_le (by decide) (by omega)
    have size : (sprintD n.toNat).length = cifras n.toNat := length_toDigits n.toNat
    rw [size, auxiliarySize]
    omega
  intro numero among
  rw [impresos, List.mem_cons, List.mem_cons] at among
  rcases among with rfl | rfl | reading
  · exact byte key.num
  · exact byte (puerto nvs key)
  · split at reading
    · cases reading
    · next modulo rama =>
      split at reading
      · cases reading
      · split at reading
        · have fixed : ram.gps = SerialRam.inicial.gps ∨ ram.gps = gpsFijo := by
            rcases alcanzada.sensorGPS with boot | filled
            · exact Or.inl (by rw [SerialRam.gps, SerialRam.gps, boot])
            · exact Or.inr filled.gps
          rcases fixed with boot | filled
          · rw [boot] at reading
            revert numero
            decide +kernel
          · rw [filled] at reading
            revert numero
            decide +kernel
        · obtain ⟨v, -, rfl⟩ := List.mem_map.mp reading
          have few := anchoD_le v
          rw [length_sprintD, auxiliarySize]
          omega

-----------------------------------------------------------------------------------------
-- The frame and the endpoints
-----------------------------------------------------------------------------------------

/-- The segments of some of the keys take as much room as these keys need, by induction on the
keys.
-/
theorem length_partes {atof : Str → UInt32} {fuera : Int32} {nvs : Almacen}
    {verificador : ModulosResponse} {ram : SerialRam} (alcanzada : Guardable atof ram)
    {keys : List KeyValue} {segmentos : List Str}
    (pairs : List.Forall₂ (fun key texto => segmento fuera nvs verificador ram key = .ok texto)
      keys segmentos)
    (elegida : KeyValue → Bool)
    : ((((keys.zip segmentos).filter (elegida ·.1)).map Prod.snd).flatMap (· ++ ['|'])).length
      = ((keys.filter elegida).map (anchoSegmento fuera nvs verificador ram)).sum := by
  induction pairs with
  | nil => rfl
  | @cons key texto keys segmentos found _ ih =>
      have width := length_segmento alcanzada found
      rw [List.zip_cons_cons, List.filter_cons, List.filter_cons]
      by_cases own : elegida key = true
      · rw [if_pos own, if_pos own, List.map_cons, List.flatMap_cons, List.length_append, ih,
          List.map_cons, List.sum_cons, ← width, List.length_append, List.length_singleton]
      · rw [if_neg own, if_neg own, ih]

/-- What is built has exactly the summed widths. -/
theorem length_construido {atof : Str → UInt32} {fuera : Int32} {nvs : Almacen}
    {verificador : ModulosResponse} {ram : SerialRam} (alcanzada : Guardable atof ram)
    {keys : List KeyValue} {webBuffer : Str} {puntos : PuntoWeb → Str}
    (built : webBufferConstructor fuera nvs keys verificador ram = .ok webBuffer)
    (collected : endpointDiscriminator webBuffer = .ok puntos)
    : webBuffer.length = (keys.map (anchoSegmento fuera nvs verificador ram)).sum + 1
      ∧ ∀ punto : PuntoWeb, (puntos punto).length
        = ((keys.filter (· ∈ punto.grupo)).map (anchoSegmento fuera nvs verificador ram)).sum
          + 1 := by
  obtain ⟨segmentos, pairs, frame⟩ := webBufferConstructor_segmentos built
  have cut := fields_webBuffer alcanzada.limpio built
  refine ⟨?_, fun punto => ?_⟩
  · have whole := length_partes alcanzada pairs fun _ => true
    simp only [List.filter_true, List.map_snd_zip (Nat.le_of_eq pairs.length_eq.symm)] at whole
    rw [frame, List.length_cons, whole]
  · rw [endpointDiscriminator_segmentos cut] at collected
    have same := congrFun (Except.ok.inj collected) punto
    have own := length_partes alcanzada cut fun key => decide (key ∈ punto.grupo)
    rw [← same, List.length_cons, PuntoWeb.partes]
    exact congrArg (· + 1) own

/-- Nothing is built exactly when a position is to be shown that no frame has brought. -/
theorem construido_iff {fuera : Int32} {nvs : Almacen} {keys : List KeyValue}
    {verificador : ModulosResponse} {ram : SerialRam}
    : (∃ webBuffer, webBufferConstructor fuera nvs keys verificador ram = .ok webBuffer)
      ↔ ¬(verificador.gps = true ∧ ¬GpsListo ram ∧ MuestraGps keys nvs) := by
  constructor
  · intro built posicion
    obtain ⟨webBuffer, built⟩ := built
    obtain ⟨answered, vacia, key, member, port⟩ := posicion
    obtain ⟨segmentos, pairs, -⟩ := webBufferConstructor_segmentos built
    obtain ⟨i, inside, rfl⟩ := List.getElem_of_mem member
    have shown := pairs.get inside (pairs.length_eq ▸ inside)
    obtain ⟨interior, body, -⟩ := ok_of_bind shown
    have missing : ram.gps.valor2 = none := not_not.mp vacia
    rw [List.get_eq_getElem, port, cuerpo_gps, answered, if_pos rfl, GPS.texto, missing] at body
    cases body
  · intro sin
    apply webBufferConstructor_of_segmentos
    intro key member
    have body : ∃ texto, cuerpo fuera verificador ram (puerto nvs key) = .ok texto := by
      by_cases port : puerto nvs key = 18
      · apply cuerpo_ok
        intro answered
        by_contra vacia
        exact sin ⟨answered, vacia, key, member, port⟩
      · cases rama : ramaDe (puerto nvs key) with
        | none => exact ⟨_, cuerpo_sin_rama rama _ _ _⟩
        | some modulo =>
            have entera : modulo ≠ .gpsSensors := fun gps => port (ramaDe_gps (gps ▸ rama))
            exact ⟨_, cuerpo_rama rama entera _ _ _⟩
    obtain ⟨texto, found⟩ := body
    exact ⟨_, by rw [segmento, found]; rfl⟩

/-- Whatever ports the keys have, whatever the flags say and whatever frames were accepted, the
texts fit their buffers exactly when the digits, signs and delimiters add up to no more than
the buffers hold. Witness: the widths of the segments, summed over the frame and over each
endpoint.
-/
theorem textos_caben_iff {atof : Str → UInt32} {ram : SerialRam} (alcanzada : Guardable atof ram)
    (fuera : Int32) (nvs : Almacen) (verificador : ModulosResponse)
    : Caben fuera nvs verificador ram ↔ Holgura fuera nvs verificador ram := by
  simp only [Caben, Holgura, ← loadKeys_eq_filter]
  constructor
  · intro caben
    by_contra sin
    rw [not_or] at sin
    obtain ⟨posicion, estrecho⟩ := sin
    obtain ⟨webBuffer, built⟩ := construido_iff.mpr posicion
    have collected := endpointDiscriminator_segmentos (fields_webBuffer alcanzada.limpio built)
    obtain ⟨frame, points⟩ := length_construido alcanzada built collected
    obtain ⟨fits, fit, -⟩ := caben _ _ built collected
    refine estrecho ⟨?_, fun punto => ?_⟩
    · rwa [frame] at fits
    · have fits := fit punto
      rwa [points punto] at fits
  · intro holgura webBuffer puntos built collected
    obtain ⟨frame, points⟩ := length_construido alcanzada built collected
    obtain ⟨fits, fit⟩ := holgura.resolve_left (construido_iff.mp ⟨webBuffer, built⟩)
    refine ⟨?_, fun punto => ?_, fun key _ => impresos_cortos alcanzada fuera nvs verificador key⟩
    · rwa [frame]
    · rw [points punto]
      exact fit punto

theorem guardable_inicial (atof : Str → UInt32) : Guardable atof .inicial := ⟨[], rfl⟩

theorem registrada_conTanque (key : KeyValue)
    : Registrada conTanque key ↔ key ∈ [KeyValue.temptrans, .greywater] := by
  constructor
  · intro registrada
    by_contra other
    simp only [List.mem_cons, List.not_mem_nil, or_false, not_or] at other
    apply registrada_ne_none registrada
    have engine : key.registro ≠ "1_TEMPTRANS" := fun same =>
      other.1 (KeyValue.registro_injective same)
    have tank : key.registro ≠ "1_GREYWATER" := fun same =>
      other.2 (KeyValue.registro_injective same)
    rw [conTanque, Registers.Store.get_write_of_ne _ _ tank,
      Registers.Store.get_write_of_ne _ _ engine]
    rfl
  · intro member
    revert key
    decide +kernel

/-- Two keys are far from filling the buffers. -/
theorem textos_caben_tanque : Caben 0 conTanque .cero .inicial := by
  have keys : KeyValue.all.filter (Registrada conTanque ·) = [.temptrans, .greywater] := by
    simp only [registrada_conTanque]
    decide
  have widths : anchoSegmento 0 conTanque .cero .inicial .temptrans = 6
      ∧ anchoSegmento 0 conTanque .cero .inicial .greywater = 7 := by
    decide +kernel
  have holgura : Holgura 0 conTanque .cero .inicial := by
    simp only [Holgura, keys]
    refine Or.inr ⟨by simp [widths, webBufferSize], fun punto => ?_⟩
    cases punto <;> simp [PuntoWeb.grupo, widths, endpointSize]
  exact (textos_caben_iff (guardable_inicial fun _ => 0) _ _ _).mpr holgura

/-- A card that shows all fourteen keys of the engine at one fan. -/
def conMotor : Almacen :=
  Registers.Store.empty.writeAll
    (PuntoWeb.motor.grupo.map fun key => (key.registro, Nat.toDigits 10 40))

theorem preReadxNvs_conMotor {key : KeyValue} (member : key ∈ PuntoWeb.motor.grupo)
    : preReadxNvs conMotor key = 40 := by
  have admite : ∀ key ∈ PuntoWeb.motor.grupo, Admite key.registro := by
    decide +kernel
  have distinct : ((PuntoWeb.motor.grupo.map fun key =>
      (key.registro, Nat.toDigits 10 40)).map Prod.fst).Nodup := by
    rw [List.map_map]
    exact (grupo_wellFormed.1 .motor).map KeyValue.registro_injective
  have held := Registers.Store.get_writeAll_of_mem distinct
    (List.mem_map_of_mem member) (admite key member) Registers.Store.empty
  exact preReadxNvs_puerto (by decide) held

/-- The segments of the engine do not fit its endpoint, even with no reading at all. -/
theorem textos_sin_caber
    : ¬∀ (atof : Str → UInt32) (ram : SerialRam),
        Guardable atof ram
        → ∀ (fuera : Int32) (nvs : Almacen) (verificador : ModulosResponse),
          Caben fuera nvs verificador ram := by
  intro claim
  have alcanzada := guardable_inicial fun _ => 0
  have caben := claim _ _ alcanzada 0 conMotor .cero
  obtain ⟨webBuffer, built⟩ := webBufferConstructor_ok
    (fun answered : ModulosResponse.cero.gps = true => absurd answered Bool.false_ne_true)
    0 conMotor (loadKeysWithPortAssignedToRAM conMotor).keysWithPorts
  have collected := endpointDiscriminator_segmentos (fields_webBuffer alcanzada.limpio built)
  have size := (length_construido alcanzada built collected).2 .motor
  have fits := (caben _ _ built collected).2.1 .motor
  have engine : (loadKeysWithPortAssignedToRAM conMotor).keysWithPorts.filter
        (· ∈ PuntoWeb.motor.grupo)
      = KeyValue.all.filter (· ∈ PuntoWeb.motor.grupo) := by
    rw [loadKeys_eq_filter, List.filter_filter]
    refine List.filter_congr fun key _ => ?_
    by_cases member : key ∈ PuntoWeb.motor.grupo
    · have registrada : Registrada conMotor key := by
        rw [Registrada, preReadxNvs_conMotor member]
        decide
      simp [member, registrada]
    · simp [member]
  have widths : (KeyValue.all.filter (· ∈ PuntoWeb.motor.grupo)).map
        (anchoSegmento 0 conMotor .cero .inicial)
      = (KeyValue.all.filter (· ∈ PuntoWeb.motor.grupo)).map fun key =>
        cifras key.num.toNat + 6 := by
    refine List.map_congr_left fun key among => ?_
    have member : key ∈ PuntoWeb.motor.grupo := of_decide_eq_true (List.mem_filter.mp among).2
    rw [anchoSegmento, puerto, preReadxNvs_conMotor member]
    rfl
  rw [size, engine, widths, endpointSize] at fits
  exact absurd fits (by decide +kernel)

end EspHttpControl.Serial
