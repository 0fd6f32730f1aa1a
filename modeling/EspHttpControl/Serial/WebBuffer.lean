import EspHttpControl.Nvs.Controller
import EspHttpControl.Serial.Sensores

/-! The web frame: one segment for each registered key between bars.
The text buffers are unbounded here. A read past the end of an array gives the unspecified
value `fuera`.
-/

namespace EspHttpControl.Serial

open CText Nvs

/-- `vector_positions` -/
def vectorPositions (portAssociated : UInt8) : UInt8 :=
  match portAssociated.toNat with
  -- Temperaturas
  | 0 => 0
  | 1 => 1
  | 2 => 2
  -- Tanques
  | 5 => 0
  | 6 => 1
  | 7 => 2
  | 8 => 3
  -- Inclinaciones
  | 9 => 0
  -- Analogicos
  | 10 => 0
  | 11 => 1
  | 12 => 2
  | 13 => 3
  | 14 => 4
  | 15 => 5
  | 16 => 6
  | 17 => 7
  -- GPS
  | 18 => 0
  -- Ventiladores
  | 40 => 0
  | 41 => 1
  -- Interruptores
  | 42 => 0
  | 43 => 1
  | _ => 255

/-- Printed integers with colons between them. -/
def unidos (valores : List Int32) : Str :=
  [':'].intercalate (valores.map fun v => sprintD v.toInt)

/-- The readings of a record in the order in which they are printed. -/
def Lectura.valores (x : Lectura) : List Int32 := [x.valor1]

def Analogicos.valores (x : Analogicos) : List Int32 := [x.valor1, x.valor2]

def Tanques.valores (x : Tanques) : List Int32 :=
  [x.valor1, x.valor2, x.valor3, x.valor4, x.valor5]

def Inclinaciones.valores (x : Inclinaciones) : List Int32 := [x.valor1, x.valor2, x.valor3]

/-- The printed fields of the position; `strcat` of a NULL timestamp is a fault. -/
def GPS.texto (x : GPS) : Except Fault Str :=
  match x.valor2 with
  | none => .error .nullPointer
  | some timestamp =>
    .ok ([':'].intercalate [sprintD x.valor1.toNat, timestamp, sprintF x.valor3,
      sprintF x.valor4, sprintD x.valor5.toNat])

/-- A module that answered shows its readings, any other one shows `-`. -/
def siResponde (responde : Bool) (texto : Str) : Str :=
  if responde then texto else ['-']

/-- The branch of `web_buffer_constructor` that the port selects. -/
def cuerpo (fuera : Int32) (verificador : ModulosResponse) (ram : SerialRam)
    (portAssociated : UInt8)
    : Except Fault Str :=
  let position := (vectorPositions portAssociated).toNat
  if portAssociated ≤ 2 then
    .ok (siResponde verificador.temperatura
      (unidos (load ram.temperatura position ⟨fuera⟩).valores))
  else if portAssociated = 4 then
    .ok (siResponde verificador.digitalInput
      (unidos (load ram.digitalInput position ⟨fuera⟩).valores))
  else if portAssociated ≥ 5 ∧ portAssociated ≤ 8 then
    .ok (siResponde verificador.liquido
      (unidos (load ram.tanque position ⟨fuera, fuera, fuera, fuera, fuera⟩).valores))
  else if portAssociated = 9 then
    .ok (siResponde verificador.inclinacion
      (unidos (load ram.inclinacion position ⟨fuera, fuera, fuera⟩).valores))
  else if portAssociated ≥ 10 ∧ portAssociated ≤ 17 then
    .ok (siResponde verificador.analogico
      (unidos (load ram.analogico position ⟨fuera, fuera⟩).valores))
  else if portAssociated = 18 then
    if verificador.gps then
      (load ram.sensorGPS position ⟨false, none, 0, 0, 0, 0, 0, 0⟩).texto
    else .ok ['-']
  else if portAssociated ≥ 40 ∧ portAssociated ≤ 41 then
    .ok (siResponde verificador.ventilador
      (unidos (load ram.ventilador position ⟨fuera⟩).valores))
  else if portAssociated ≥ 42 ∧ portAssociated ≤ 43 then
    .ok (siResponde verificador.digitalOutput
      (unidos (load ram.interruptor position ⟨fuera⟩).valores))
  else .ok []

/-- The port of a key as `web_buffer_constructor` keeps it, in eight bits. -/
def puerto (nvs : Almacen) (key : KeyValue) : UInt8 := (preReadxNvs nvs key).toUInt8

/-- The text between two bars. -/
def segmento (fuera : Int32) (nvs : Almacen) (verificador : ModulosResponse) (ram : SerialRam)
    (key : KeyValue)
    : Except Fault Str := do
  let texto ← cuerpo fuera verificador ram (puerto nvs key)
  return sprintD key.num.toNat ++ ':' :: sprintD (puerto nvs key).toNat ++ ':' :: texto

/-- `web_buffer_constructor` over the registered keys. -/
def webBufferConstructor (fuera : Int32) (nvs : Almacen) (keys : List KeyValue)
    (verificador : ModulosResponse) (ram : SerialRam)
    : Except Fault Str :=
  keys.foldlM
    (fun webBuffer key => do
      let texto ← segmento fuera nvs verificador ram key
      return webBuffer ++ texto ++ ['|'])
    ['|']

-----------------------------------------------------------------------------------------
-- The segments of the frame
-----------------------------------------------------------------------------------------

/-- The timestamp, once there is one, holds no bar. -/
def SinBarra (ram : SerialRam) : Prop :=
  ∀ timestamp, ram.sensorGPS[0].valor2 = some timestamp → '|' ∉ timestamp

def GpsListo (ram : SerialRam) : Prop := ram.sensorGPS[0].valor2 ≠ none

/-- The only record of the position. -/
def SerialRam.gps (ram : SerialRam) : GPS := ram.sensorGPS[0]

theorem bar_not_mem_sprintD (v : Int) : '|' ∉ sprintD v :=
  not_mem_sprintD v (by decide) (by decide)

theorem not_mem_unidos {c : Char} (other : c.isDigit = false ∧ c ≠ '-' ∧ c ≠ ':')
    (valores : List Int32)
    : c ∉ unidos valores := by
  obtain ⟨digit, sign, colon⟩ := other
  intro member
  rcases mem_intercalate member with sep | ⟨part, among, inside⟩
  · exact colon sep
  · obtain ⟨v, -, rfl⟩ := List.mem_map.mp among
    exact not_mem_sprintD v.toInt digit sign inside

theorem bar_not_mem_unidos (valores : List Int32) : '|' ∉ unidos valores :=
  not_mem_unidos (by decide) valores

theorem unidos_ne_nil {valores : List Int32} (nonempty : valores ≠ []) : unidos valores ≠ [] := by
  obtain ⟨v, rest, rfl⟩ := List.exists_cons_of_ne_nil nonempty
  exact intercalate_ne_nil (sprintD_ne_nil v.toInt)

theorem bar_not_mem_siResponde {texto : Str} (free : '|' ∉ texto) (responde : Bool)
    : '|' ∉ siResponde responde texto := by
  cases responde with
  | false => simp [siResponde]
  | true => exact free

theorem bar_not_mem_textoGPS {x : GPS} {texto : Str}
    (limpio : ∀ timestamp, x.valor2 = some timestamp → '|' ∉ timestamp)
    (h : x.texto = .ok texto)
    : '|' ∉ texto := by
  have decimals (bits : UInt32) : '|' ∉ sprintF bits := fun member =>
    absurd (sprintF_chars member) (by decide)
  rw [GPS.texto] at h
  split at h
  · simp at h
  · rename_i timestamp found
    obtain rfl := Except.ok.inj h
    intro member
    rcases mem_intercalate member with sep | ⟨part, among, inside⟩
    · exact absurd sep (by decide)
    · simp only [List.mem_cons, List.not_mem_nil, or_false] at among
      rcases among with rfl | rfl | rfl | rfl | rfl
      · exact bar_not_mem_sprintD _ inside
      · exact limpio _ found inside
      · exact decimals _ inside
      · exact decimals _ inside
      · exact bar_not_mem_sprintD _ inside

/-- Of the array of one position only the first cell is ever rendered. -/
theorem load_sensorGPS (ram : SerialRam) (otro : GPS)
    : load ram.sensorGPS (vectorPositions 18).toNat otro = ram.sensorGPS[0] :=
  rfl

/-- No branch writes a bar, by the branches of the port. -/
theorem bar_not_mem_cuerpo {fuera : Int32} {verificador : ModulosResponse} {ram : SerialRam}
    {port : UInt8} {texto : Str} (limpio : SinBarra ram)
    (h : cuerpo fuera verificador ram port = .ok texto)
    : '|' ∉ texto := by
  have printed (responde : Bool) (valores : List Int32)
      : '|' ∉ siResponde responde (unidos valores) :=
    bar_not_mem_siResponde (bar_not_mem_unidos valores) responde
  simp only [cuerpo] at h
  split at h
  · exact Except.ok.inj h ▸ printed _ _
  split at h
  · exact Except.ok.inj h ▸ printed _ _
  split at h
  · exact Except.ok.inj h ▸ printed _ _
  split at h
  · exact Except.ok.inj h ▸ printed _ _
  split at h
  · exact Except.ok.inj h ▸ printed _ _
  split at h
  · rename_i gps
    subst gps
    split at h
    · exact bar_not_mem_textoGPS limpio h
    · obtain rfl := Except.ok.inj h
      decide
  split at h
  · exact Except.ok.inj h ▸ printed _ _
  split at h
  · exact Except.ok.inj h ▸ printed _ _
  · exact Except.ok.inj h ▸ List.not_mem_nil

theorem segmento_field {fuera : Int32} {nvs : Almacen} {verificador : ModulosResponse}
    {ram : SerialRam} {key : KeyValue} {texto : Str} (limpio : SinBarra ram)
    (h : segmento fuera nvs verificador ram key = .ok texto)
    : texto ≠ [] ∧ '|' ∉ texto := by
  simp only [segmento, bind, Except.bind] at h
  split at h
  · simp at h
  · rename_i interior found
    obtain rfl := Except.ok.inj h
    have free := bar_not_mem_cuerpo limpio found
    have numbers := bar_not_mem_sprintD
    exact ⟨by simp, by simp [free, numbers]⟩

/-- A branch fails only on a position that has no timestamp yet. -/
theorem cuerpo_ok {verificador : ModulosResponse} {ram : SerialRam}
    (listo : verificador.gps = true → GpsListo ram) (fuera : Int32) (port : UInt8)
    : ∃ texto, cuerpo fuera verificador ram port = .ok texto := by
  simp only [cuerpo]
  repeat' split
  all_goals try exact ⟨_, rfl⟩
  rename_i gps answered
  subst gps
  rw [load_sensorGPS, GPS.texto]
  split
  · rename_i missing
    exact absurd missing (listo answered)
  · exact ⟨_, rfl⟩

/-- The frame is a bar followed by the segments of the keys in order, each with its bar.
Witness: induction on the keys, appending to the text built so far.
-/
theorem webBufferConstructor_segmentos {fuera : Int32} {nvs : Almacen} {keys : List KeyValue}
    {verificador : ModulosResponse} {ram : SerialRam} {webBuffer : Str}
    (h : webBufferConstructor fuera nvs keys verificador ram = .ok webBuffer)
    : ∃ segmentos,
        List.Forall₂ (fun key texto => segmento fuera nvs verificador ram key = .ok texto)
          keys segmentos
        ∧ webBuffer = '|' :: segmentos.flatMap (· ++ ['|']) := by
  have scan (keys : List KeyValue) (anterior : Str)
      (h : keys.foldlM (fun webBuffer key => do
          let texto ← segmento fuera nvs verificador ram key
          return webBuffer ++ texto ++ ['|']) anterior = .ok webBuffer)
      : ∃ segmentos,
          List.Forall₂ (fun key texto => segmento fuera nvs verificador ram key = .ok texto)
            keys segmentos
          ∧ webBuffer = anterior ++ segmentos.flatMap (· ++ ['|']) := by
    induction keys generalizing anterior with
    | nil =>
        obtain rfl := Except.ok.inj h
        exact ⟨[], .nil, by simp⟩
    | cons key rest ih =>
        rw [List.foldlM_cons] at h
        cases found : segmento fuera nvs verificador ram key with
        | error fault => simp [found, bind, Except.bind] at h
        | ok texto =>
            rw [found] at h
            obtain ⟨segmentos, pairs, rfl⟩ := ih _ h
            exact ⟨texto :: segmentos, .cons found pairs, by simp⟩
  exact scan keys ['|'] h

/-- Splitting the frame at its bars gives the segment of each key, in order. -/
theorem fields_webBuffer {fuera : Int32} {nvs : Almacen} {keys : List KeyValue}
    {verificador : ModulosResponse} {ram : SerialRam} {webBuffer : Str} (limpio : SinBarra ram)
    (h : webBufferConstructor fuera nvs keys verificador ram = .ok webBuffer)
    : List.Forall₂ (fun key texto => segmento fuera nvs verificador ram key = .ok texto)
        keys (fields ['|'] webBuffer) := by
  obtain ⟨segmentos, pairs, rfl⟩ := webBufferConstructor_segmentos h
  suffices split : fields ['|'] ('|' :: segmentos.flatMap (· ++ ['|'])) = segmentos by
    rwa [split]
  rw [fields_sep (by decide)]
  clear h
  induction pairs with
  | nil => rfl
  | @cons key texto keys segmentos found _ ih =>
      obtain ⟨nonempty, free⟩ := segmento_field limpio found
      have run : ∀ c ∈ texto, ['|'].contains c = false := by
        intro c member
        simpa using fun same : c = '|' => free (same ▸ member)
      rw [List.flatMap_cons, List.append_assoc, List.singleton_append,
        fields_run nonempty run (by decide), ih]

/-- A frame is built if every key has its segment, by induction on the keys. -/
theorem webBufferConstructor_of_segmentos {fuera : Int32} {nvs : Almacen} {keys : List KeyValue}
    {verificador : ModulosResponse} {ram : SerialRam}
    (legibles : ∀ key ∈ keys, ∃ texto, segmento fuera nvs verificador ram key = .ok texto)
    : ∃ webBuffer, webBufferConstructor fuera nvs keys verificador ram = .ok webBuffer := by
  have scan (keys : List KeyValue) (anterior : Str)
      (legibles : ∀ key ∈ keys, ∃ texto, segmento fuera nvs verificador ram key = .ok texto)
      : ∃ webBuffer, keys.foldlM (fun webBuffer key => do
          let texto ← segmento fuera nvs verificador ram key
          return webBuffer ++ texto ++ ['|']) anterior
        = (.ok webBuffer : Except Fault Str) := by
    induction keys generalizing anterior with
    | nil => exact ⟨anterior, rfl⟩
    | cons key rest ih =>
        obtain ⟨texto, found⟩ := legibles key List.mem_cons_self
        rw [List.foldlM_cons, found]
        exact ih _ fun other member => legibles other (List.mem_cons_of_mem key member)
  exact scan keys ['|'] legibles

/-- A frame is built unless a position without timestamp is to be shown. -/
theorem webBufferConstructor_ok {verificador : ModulosResponse} {ram : SerialRam}
    (listo : verificador.gps = true → GpsListo ram) (fuera : Int32) (nvs : Almacen)
    (keys : List KeyValue)
    : ∃ webBuffer, webBufferConstructor fuera nvs keys verificador ram = .ok webBuffer := by
  apply webBufferConstructor_of_segmentos
  intro key _
  obtain ⟨texto, found⟩ := cuerpo_ok listo fuera (puerto nvs key)
  exact ⟨_, by rw [segmento, found]; rfl⟩

/-- The endpoints that show a part of the web frame. -/
inductive PuntoWeb
  | trans | temp | tanq | disp | bat | motor | interrup | tempo | gnss
deriving DecidableEq, Repr

/-- `TRANS_GROUP` and its siblings. -/
def PuntoWeb.grupo : PuntoWeb → List KeyValue
  | .trans =>
    [.tempTransm, .todoTransmDiferencial, .frontalTransmDiferencial, .centralTransmDiferencial,
      .traseroTransmDiferencial, .desbloqueadoTransmDiferencial, .fgdTransmTraccion,
      .rgdTransmTraccion, .agdTransmTraccion]
  | .temp =>
    [.tempambint, .tempambext, .climatizacion, .nevera, .resheladagua, .interruptorClimatizador,
      .interruptorVentilacion, .interruptorNevera]
  | .tanq =>
    [.freshwater, .blackwater, .greywater, .oilother, .ballast, .sludge, .bilge, .seawater]
  | .disp =>
    [.tempambDisp, .tempcabinDisp, .presionDisp, .inclinacionDispRollPitchYaw, .gasolinaDisp]
  | .bat => [.bateriaAVol, .bateriaACur]
  | .motor =>
    [.temptrans, .tempturbo, .tempescap, .temprefri, .tempace, .presacei, .prescom, .ventiladorA,
      .ventiladorB, .ventiladorC, .acelerador1, .acelerador2, .acelerador3, .acelerador4]
  | .interrup => [.niebla, .compresor, .toldoSuperior, .toldoLateral, .maletero]
  | .tempo =>
    [.temporizador1, .temporizador2, .temporizador3, .temporizador4, .temporizador5,
      .temporizador6, .temporizador7, .temporizador8, .temporizador9, .temporizador10]
  | .gnss => [.gnssGga]

/-- `endpoint_discriminator`: each segment is appended to the endpoints whose group names its
key number; a segment of colons alone has no number.
-/
def endpointDiscriminator (webBuffer : Str) : Except Fault (PuntoWeb → Str) :=
  (splitSensors webBuffer ['|']).1.foldlM
    (fun puntos buffer =>
      match (strtok [':'] (some buffer)).1 with
      | none => .error .nullPointer
      | some texto =>
        let number := (atoi texto).toUInt32.toUInt8
        .ok fun punto =>
          punto.grupo.foldl
            (fun anterior key =>
              if number = key.num then anterior ++ buffer ++ ['|'] else anterior)
            (puntos punto))
    fun _ => ['|']

end EspHttpControl.Serial
