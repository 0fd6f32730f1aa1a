import EspHttpControl.Serial.Publicacion
import Mathlib.Data.List.Perm.Subperm

/-! Reading the web frame back.
The frame has no escapes and no lengths: a reader gets the keys, the ports and the readings
back only because no part of a segment is empty or holds a delimiter.
-/

namespace EspHttpControl.Serial

open CText Nvs

/-- The module whose branch of `web_buffer_constructor` the port selects. -/
def ramaDe (portAssociated : UInt8) : Option ModulosApp :=
  if portAssociated ≤ 2 then some .temperatureSensors
  else if portAssociated = 4 then some .digitalInputSensors
  else if portAssociated ≥ 5 ∧ portAssociated ≤ 8 then some .liquidoSensors
  else if portAssociated = 9 then some .inclinacionSensors
  else if portAssociated ≥ 10 ∧ portAssociated ≤ 17 then some .analogicoSensors
  else if portAssociated = 18 then some .gpsSensors
  else if portAssociated ≥ 40 ∧ portAssociated ≤ 41 then some .ventiladorSensors
  else if portAssociated ≥ 42 ∧ portAssociated ≤ 43 then some .digitalOutputSensors
  else none

/-- The flag that the branch of a module tests. -/
def ModulosResponse.marca (verificador : ModulosResponse) : ModulosApp → Bool
  | .temperatureSensors => verificador.temperatura
  | .digitalInputSensors => verificador.digitalInput
  | .liquidoSensors => verificador.liquido
  | .inclinacionSensors => verificador.inclinacion
  | .analogicoSensors => verificador.analogico
  | .gpsSensors => verificador.gps
  | .ventiladorSensors => verificador.ventilador
  | .digitalOutputSensors => verificador.digitalOutput
  | _ => false

namespace ModulosApp

/-- The modules with readings in integers whose ports all have a cell. -/
def conEnteros : List ModulosApp :=
  [.temperatureSensors, .liquidoSensors, .inclinacionSensors, .analogicoSensors,
    .ventiladorSensors, .digitalOutputSensors]

/-- The number of integers in a record of the module. -/
def anchura : ModulosApp → Nat
  | .temperatureSensors => 1
  | .digitalInputSensors => 1
  | .liquidoSensors => 5
  | .inclinacionSensors => 3
  | .analogicoSensors => 2
  | .ventiladorSensors => 1
  | .digitalOutputSensors => 1
  | _ => 0

/-- The size of the module's array. -/
def celdas : ModulosApp → Nat
  | .temperatureSensors => 3
  | .digitalInputSensors => 1
  | .liquidoSensors => 4
  | .inclinacionSensors => 1
  | .analogicoSensors => 8
  | .ventiladorSensors => 2
  | .digitalOutputSensors => 2
  | _ => 0

end ModulosApp

/-- The integers that the branch of a module prints for a position of its array. -/
def lectura (fuera : Int32) (ram : SerialRam) (modulo : ModulosApp) (position : Nat)
    : List Int32 :=
  match modulo with
  | .temperatureSensors => (load ram.temperatura position ⟨fuera⟩).valores
  | .digitalInputSensors => (load ram.digitalInput position ⟨fuera⟩).valores
  | .liquidoSensors => (load ram.tanque position ⟨fuera, fuera, fuera, fuera, fuera⟩).valores
  | .inclinacionSensors => (load ram.inclinacion position ⟨fuera, fuera, fuera⟩).valores
  | .analogicoSensors => (load ram.analogico position ⟨fuera, fuera⟩).valores
  | .ventiladorSensors => (load ram.ventilador position ⟨fuera⟩).valores
  | .digitalOutputSensors => (load ram.interruptor position ⟨fuera⟩).valores
  | _ => []

/-- The branches differ in their module only, apart from the position. -/
theorem cuerpo_rama {port : UInt8} {modulo : ModulosApp} (rama : ramaDe port = some modulo)
    (entera : modulo ≠ .gpsSensors) (fuera : Int32) (verificador : ModulosResponse)
    (ram : SerialRam)
    : cuerpo fuera verificador ram port
      = .ok (siResponde (verificador.marca modulo)
          (unidos (lectura fuera ram modulo (vectorPositions port).toNat))) := by
  grind [cuerpo, ramaDe, ModulosResponse.marca, lectura]

theorem cuerpo_gps (fuera : Int32) (verificador : ModulosResponse) (ram : SerialRam)
    : cuerpo fuera verificador ram 18
      = if verificador.gps then ram.gps.texto else .ok ['-'] :=
  rfl

theorem ramaDe_gps {port : UInt8} (rama : ramaDe port = some .gpsSensors) : port = 18 := by
  grind [ramaDe]

theorem cuerpo_sin_rama {port : UInt8} (rama : ramaDe port = none) (fuera : Int32)
    (verificador : ModulosResponse) (ram : SerialRam)
    : cuerpo fuera verificador ram port = .ok [] := by
  grind [cuerpo, ramaDe]

/-- Every port of a module with integers is looked up inside its array. -/
theorem posicion_dentro
    : ∀ n < 256, ∀ modulo ∈ ModulosApp.conEnteros,
        ramaDe (UInt8.ofNat n) = some modulo
        → (vectorPositions (UInt8.ofNat n)).toNat < modulo.celdas := by
  decide +kernel

/-- Inside the array the branch prints the record that is stored there. -/
theorem lectura_guardada {modulo : ModulosApp} (enteros : modulo ∈ ModulosApp.conEnteros)
    {position : Nat} (inside : position < modulo.celdas) (fuera : Int32) (ram : SerialRam)
    : (ram.valores modulo)[position]? = some (lectura fuera ram modulo position) := by
  have record {α : Type} {n : Nat} (bound : position < n) (v : Vector α n)
      (valores : α → List Int32) (outside : α)
      : (v.toList.map valores)[position]? = some (valores (load v position outside)) := by
    simp [load, bound]
  cases modulo <;> first | exact record inside _ _ _ | simp [ModulosApp.conEnteros] at enteros

theorem length_lectura (fuera : Int32) (ram : SerialRam) (modulo : ModulosApp) (position : Nat)
    : (lectura fuera ram modulo position).length = modulo.anchura := by
  cases modulo <;> rfl

-----------------------------------------------------------------------------------------
-- The fields of a segment
-----------------------------------------------------------------------------------------

/-- The fields of a segment behind the key and the port: none for a port of no module, and for
a module with integers as many as its records have, which read as the stored ones, or a lone
`-` without an answer.
-/
def CamposDe (verificador : ModulosResponse) (ram : SerialRam) (port : UInt8)
    (campos : List Str)
    : Prop :=
  match ramaDe port with
  | none => campos = []
  | some modulo =>
    modulo ∈ ModulosApp.conEnteros →
      if verificador.marca modulo then
        campos.length = modulo.anchura
        ∧ (ram.valores modulo)[(vectorPositions port).toNat]? = some (campos.map atoi)
      else campos = [['-']]

/-- Splitting the token of a key at the colons gives its number, its port and the fields of
the port.
-/
def Descifra (nvs : Almacen) (verificador : ModulosResponse) (ram : SerialRam) (key : KeyValue)
    (token : Str)
    : Prop :=
  ∃ campos,
    (splitSensors token [':']).1
      = sprintD key.num.toNat :: sprintD (puerto nvs key).toNat :: campos
    ∧ CamposDe verificador ram (puerto nvs key) campos

theorem colon_not_mem_sprintD (v : Int) : ∀ c ∈ sprintD v, [':'].contains c = false := by
  intro c member
  have colon : ':' ∉ sprintD v := not_mem_sprintD v (by decide) (by decide)
  simpa using fun same : c = ':' => colon (same ▸ member)

/-- The key and the port of a segment are its first two fields. -/
theorem fields_segmento (key : KeyValue) (port : UInt8) (texto : Str)
    : fields [':'] (sprintD key.num.toNat ++ ':' :: sprintD port.toNat ++ ':' :: texto)
      = sprintD key.num.toNat :: sprintD port.toNat :: fields [':'] texto := by
  rw [List.append_assoc, List.cons_append,
    fields_run (sprintD_ne_nil _) (colon_not_mem_sprintD _) (by decide),
    fields_run (sprintD_ne_nil _) (colon_not_mem_sprintD _) (by decide)]

/-- Splitting the text of a branch gives the fields that the port should have. -/
theorem camposDe_cuerpo {fuera : Int32} {verificador : ModulosResponse} {ram : SerialRam}
    {port : UInt8} {texto : Str} (h : cuerpo fuera verificador ram port = .ok texto)
    : CamposDe verificador ram port (fields [':'] texto) := by
  rw [CamposDe]
  split
  · next rama =>
    rw [cuerpo_sin_rama rama] at h
    obtain rfl := Except.ok.inj h
    rfl
  · next modulo rama =>
    intro enteros
    have entera : modulo ≠ .gpsSensors := by
      rintro rfl
      simp [ModulosApp.conEnteros] at enteros
    have inside : (vectorPositions port).toNat < modulo.celdas := by
      have bound := posicion_dentro port.toNat port.toNat_lt modulo enteros
      rw [UInt8.ofNat_toNat] at bound
      exact bound rama
    rw [cuerpo_rama rama entera] at h
    obtain rfl := Except.ok.inj h
    cases answered : verificador.marca modulo with
    | false =>
        have placeholder : fields [':'] ['-'] = [['-']] := by decide
        simpa only [siResponde, Bool.false_eq_true, ↓reduceIte] using placeholder
    | true =>
        simp only [siResponde, ↓reduceIte]
        rw [← splitSensors_fst, splitSensors_unidos]
        have read : (lectura fuera ram modulo (vectorPositions port).toNat).map
            (atoi ∘ fun v => sprintD v.toInt) = lectura fuera ram modulo
              (vectorPositions port).toNat :=
          List.map_id'' atoi_sprintD _
        refine ⟨?_, ?_⟩
        · rw [List.length_map, length_lectura]
        · rw [List.map_map, read]
          exact lectura_guardada enteros inside fuera ram

theorem descifra_segmento {fuera : Int32} {nvs : Almacen} {verificador : ModulosResponse}
    {ram : SerialRam} {key : KeyValue} {token : Str}
    (h : segmento fuera nvs verificador ram key = .ok token)
    : Descifra nvs verificador ram key token := by
  obtain ⟨texto, body, last⟩ := ok_of_bind h
  obtain rfl := Except.ok.inj last
  refine ⟨fields [':'] texto, ?_, camposDe_cuerpo body⟩
  rw [splitSensors_fst, fields_segmento]

-----------------------------------------------------------------------------------------
-- The whole frame
-----------------------------------------------------------------------------------------

/-- Distinct keys are few enough for a byte to count them. -/
theorem length_lt_of_nodup {keys : List KeyValue} (distintas : keys.Nodup)
    : keys.length < 256 := by
  have within : keys.length ≤ KeyValue.all.length :=
    (List.subperm_of_subset distintas fun key _ => key.mem_all).length_le
  have count : KeyValue.all.length = 133 := by
    rw [KeyValue.all, List.length_map, List.length_range]
    rfl
  omega

/-- Splitting the web frame at its bars gives one token for each key, in order, and each token
reads back as its key, its port and the stored readings. Witness: the fields of the frame are
the segments of the keys.
-/
theorem webBuffer_decodificable (fuera : Int32) (nvs : Almacen) {keys : List KeyValue}
    (distintas : keys.Nodup) (verificador : ModulosResponse) {ram : SerialRam}
    (listo : GpsListo ram) (limpio : SinBarra ram)
    : ∃ webBuffer,
        webBufferConstructor fuera nvs keys verificador ram = .ok webBuffer
        ∧ (splitSensors webBuffer ['|']).2.toNat = keys.length
        ∧ List.Forall₂ (Descifra nvs verificador ram) keys (splitSensors webBuffer ['|']).1 := by
  obtain ⟨webBuffer, built⟩ := webBufferConstructor_ok (fun _ => listo) fuera nvs keys
  have pairs := fields_webBuffer limpio built
  rw [← splitSensors_fst] at pairs
  refine ⟨webBuffer, built, ?_, pairs.imp fun _ _ => descifra_segmento⟩
  have few := length_lt_of_nodup distintas
  have counted : (splitSensors webBuffer ['|']).2
      = UInt8.ofNat (splitSensors webBuffer ['|']).1.length := rfl
  rw [counted, ← pairs.length_eq, UInt8.toNat_ofNat_of_lt' few]

/-- A card with a temperature, a key of no module and a fan, and its position after the first
accepted frame.
-/
def conVentilador : Almacen :=
  ((Registers.Store.empty.write "1_NEVERA" ['1']).write "1_PRESCOM" ['3', '0']).write
    "1_VENTILADOR_A" ['4', '0']

def conPosicion : SerialRam :=
  { SerialRam.inicial with sensorGPS := Vector.replicate 1 gpsFijo }

theorem conPosicion_lista : GpsListo conPosicion ∧ SinBarra conPosicion := by
  refine ⟨Option.some_ne_none _, fun timestamp found => ?_⟩
  obtain rfl := Option.some.inj found
  decide

/-- Only the temperature answered; the keys need not be in the order of their numbers. -/
theorem webBuffer_decodificable_tres
    : ∃ webBuffer,
        webBufferConstructor 0 conVentilador [.prescom, .ventiladorA, .nevera]
            { ModulosResponse.cero with temperatura := true } conPosicion
          = .ok webBuffer
        ∧ List.Forall₂
          (Descifra conVentilador { ModulosResponse.cero with temperatura := true } conPosicion)
          [.prescom, .ventiladorA, .nevera] (splitSensors webBuffer ['|']).1 := by
  have distintas : [KeyValue.prescom, .ventiladorA, .nevera].Nodup := by
    decide
  obtain ⟨webBuffer, built, -, pairs⟩ := webBuffer_decodificable 0 conVentilador distintas
    { ModulosResponse.cero with temperatura := true } conPosicion_lista.1 conPosicion_lista.2
  exact ⟨webBuffer, built, pairs⟩

end EspHttpControl.Serial
