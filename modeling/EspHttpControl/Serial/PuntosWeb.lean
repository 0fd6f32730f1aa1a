import EspHttpControl.Serial.Decodificacion

/-! The endpoints as a partition of the web frame.
`endpoint_discriminator` finds the key of a segment again in its text and appends the segment
to the endpoints whose group names that key.
-/

namespace EspHttpControl.Serial

open CText Nvs

theorem num_injective : Function.Injective KeyValue.num := by
  intro left right same
  have numbers := congrArg UInt8.toNat same
  rw [KeyValue.num_toNat, KeyValue.num_toNat] at numbers
  exact KeyValue.ctorIdx_injective (Nat.succ_injective numbers)

/-- No key is twice in a group or in two groups. -/
theorem grupo_wellFormed
    : (∀ punto : PuntoWeb, punto.grupo.Nodup)
      ∧ ∀ punto otro : PuntoWeb, punto ≠ otro → ∀ key ∈ punto.grupo, key ∉ otro.grupo := by
  refine ⟨fun punto => ?_, fun punto otro distintos => ?_⟩
  · cases punto <;> decide
  · cases punto <;> cases otro <;> first | exact absurd rfl distintos | decide

/-- The segments of an endpoint: those of the keys in its group, in the order of the frame. -/
def PuntoWeb.partes (punto : PuntoWeb) (keys : List KeyValue) (segmentos : List Str)
    : List Str :=
  ((keys.zip segmentos).filter (·.1 ∈ punto.grupo)).map Prod.snd

/-- The number in front of a segment is read back as the key's. -/
theorem numero_leido (key : KeyValue)
    : (atoi (sprintD key.num.toNat)).toUInt32.toUInt8 = key.num := by
  have bound : key.num.toNat < 2 ^ 31 := Nat.lt_trans key.num.toNat_lt (by decide)
  have printed : sprintD key.num.toNat = Nat.toDigits 10 key.num.toNat := rfl
  rw [printed, atoi_toDigits bound]
  have narrowed : (Int32.ofNat key.num.toNat).toUInt32.toUInt8 = UInt8.ofNat key.num.toNat := by
    simp
  rw [narrowed, UInt8.ofNat_toNat]

/-- The loop over a group appends the segment once if the key is in the group. -/
theorem grupo_foldl {grupo : List KeyValue} (sinRepetir : grupo.Nodup) (key : KeyValue)
    (buffer anterior : Str)
    : grupo.foldl (fun anterior otra =>
        if key.num = otra.num then anterior ++ buffer ++ ['|'] else anterior) anterior
      = if key ∈ grupo then anterior ++ buffer ++ ['|'] else anterior := by
  induction grupo generalizing anterior with
  | nil => rfl
  | cons otra rest ih =>
      obtain ⟨fresh, sinRepetir⟩ := List.nodup_cons.mp sinRepetir
      rw [List.foldl_cons, ih sinRepetir]
      by_cases same : key = otra
      · subst same
        simp [fresh]
      · have different : key.num ≠ otra.num := fun numbers => same (num_injective numbers)
        simp [same, different]

/-- One turn of the loop of `endpoint_discriminator`. -/
def reparte (puntos : PuntoWeb → Str) (buffer : Str) : Except Fault (PuntoWeb → Str) :=
  match (strtok [':'] (some buffer)).1 with
  | none => .error .nullPointer
  | some texto =>
    let number := (atoi texto).toUInt32.toUInt8
    .ok fun punto =>
      punto.grupo.foldl
        (fun anterior key => if number = key.num then anterior ++ buffer ++ ['|'] else anterior)
        (puntos punto)

/-- A turn on the segment of a key gives it to the endpoints that have the key. -/
theorem reparte_segmento {fuera : Int32} {nvs : Almacen} {verificador : ModulosResponse}
    {ram : SerialRam} {key : KeyValue} {buffer : Str}
    (found : segmento fuera nvs verificador ram key = .ok buffer) (puntos : PuntoWeb → Str)
    : reparte puntos buffer
      = .ok fun punto =>
          if key ∈ punto.grupo then puntos punto ++ buffer ++ ['|'] else puntos punto := by
  obtain ⟨texto, -, last⟩ := ok_of_bind found
  have cut : (strtok [':'] (some buffer)).1 = some (sprintD key.num.toNat) := by
    obtain rfl := Except.ok.inj last
    rw [List.append_assoc, List.cons_append,
      strtok_run (sprintD_ne_nil _) (colon_not_mem_sprintD _) (by decide)]
  simp only [reparte, cut, numero_leido, grupo_foldl (grupo_wellFormed.1 _)]

/-- The discriminator on the segments of the frame: each endpoint collects its own. Witness:
induction on the segments, with what the endpoints hold so far.
-/
theorem endpointDiscriminator_segmentos {fuera : Int32} {nvs : Almacen} {keys : List KeyValue}
    {verificador : ModulosResponse} {ram : SerialRam} {webBuffer : Str}
    (pairs : List.Forall₂ (fun key texto => segmento fuera nvs verificador ram key = .ok texto)
      keys (fields ['|'] webBuffer))
    : endpointDiscriminator webBuffer
      = .ok fun punto =>
        '|' :: (punto.partes keys (fields ['|'] webBuffer)).flatMap (· ++ ['|']) := by
  have scan (keys : List KeyValue) (segmentos : List Str) (puntos : PuntoWeb → Str)
      (pairs : List.Forall₂
        (fun key texto => segmento fuera nvs verificador ram key = .ok texto) keys segmentos)
      : segmentos.foldlM reparte puntos
        = .ok fun punto =>
            puntos punto ++ (punto.partes keys segmentos).flatMap (· ++ ['|']) := by
    induction pairs generalizing puntos with
    | nil => simp [PuntoWeb.partes]; rfl
    | @cons key buffer keys segmentos found _ ih =>
        rw [List.foldlM_cons, reparte_segmento found]
        simp only [bind, Except.bind]
        rw [ih]
        congr 1
        funext punto
        by_cases own : key ∈ punto.grupo
        · simp [PuntoWeb.partes, own]
        · simp [PuntoWeb.partes, own]
  rw [endpointDiscriminator, splitSensors_fst]
  exact scan keys _ _ pairs

/-- A segment belongs to one key only, whose number stands in front. -/
theorem segmento_key {fuera : Int32} {nvs : Almacen} {verificador : ModulosResponse}
    {ram : SerialRam} {key otra : KeyValue} {texto : Str}
    (own : segmento fuera nvs verificador ram key = .ok texto)
    (other : segmento fuera nvs verificador ram otra = .ok texto)
    : key = otra := by
  obtain ⟨_, ownFields, -⟩ := descifra_segmento own
  obtain ⟨_, otherFields, -⟩ := descifra_segmento other
  have front := (List.cons.inj (ownFields.symm.trans otherFields)).1
  apply num_injective
  rw [← numero_leido key, front, numero_leido otra]

/-- Distinct keys have distinct segments, by induction on the keys. -/
theorem segmentos_nodup {fuera : Int32} {nvs : Almacen} {verificador : ModulosResponse}
    {ram : SerialRam} {keys : List KeyValue} {segmentos : List Str} (distintas : keys.Nodup)
    (pairs : List.Forall₂ (fun key texto => segmento fuera nvs verificador ram key = .ok texto)
      keys segmentos)
    : segmentos.Nodup := by
  induction pairs with
  | nil => exact List.nodup_nil
  | @cons key texto keys segmentos found pairs ih =>
      obtain ⟨fresh, distintas⟩ := List.nodup_cons.mp distintas
      refine List.nodup_cons.mpr ⟨fun member => ?_, ih distintas⟩
      obtain ⟨i, inside, rfl⟩ := List.getElem_of_mem member
      have inKeys : i < keys.length := pairs.length_eq ▸ inside
      have same := segmento_key found (pairs.get inKeys inside)
      exact fresh (same ▸ List.getElem_mem inKeys)

/-- After the web frame has been built, each endpoint is a bar followed by the segments of the
keys in its group, unchanged and in the order of the frame; no segment is in two endpoints or
twice in one. Witness: the discriminator on the segments of the frame.
-/
theorem endpointDiscriminator_particion (fuera : Int32) (nvs : Almacen) {keys : List KeyValue}
    (crecientes : keys.Pairwise (·.num < ·.num)) (verificador : ModulosResponse)
    {ram : SerialRam} (listo : GpsListo ram) (limpio : SinBarra ram)
    : ∃ webBuffer segmentos puntos,
        webBufferConstructor fuera nvs keys verificador ram = .ok webBuffer
        ∧ List.Forall₂ (fun key texto => segmento fuera nvs verificador ram key = .ok texto)
          keys segmentos
        ∧ webBuffer = '|' :: segmentos.flatMap (· ++ ['|'])
        ∧ endpointDiscriminator webBuffer = .ok puntos
        ∧ ∀ punto : PuntoWeb,
          puntos punto = '|' :: (punto.partes keys segmentos).flatMap (· ++ ['|'])
          ∧ (punto.partes keys segmentos).Nodup
          ∧ ∀ otro : PuntoWeb, punto ≠ otro
            → List.Disjoint (punto.partes keys segmentos) (otro.partes keys segmentos) := by
  obtain ⟨webBuffer, built⟩ := webBufferConstructor_ok (fun _ => listo) fuera nvs keys
  obtain ⟨segmentos, pairs, frame⟩ := webBufferConstructor_segmentos built
  have cut : fields ['|'] webBuffer = segmentos := by
    have same := fields_webBuffer limpio built
    exact List.right_unique_forall₂' (fun _ _ _ h h' => Except.ok.inj (h.symm.trans h')) same pairs
  have collected := endpointDiscriminator_segmentos (fields_webBuffer limpio built)
  rw [cut] at collected
  obtain ⟨size, member⟩ := List.forall₂_iff_zip.mp pairs
  have distintas : keys.Nodup := crecientes.imp fun {key otra} less same => by
    subst same
    exact absurd less (UInt8.lt_irrefl _)
  have distintos := segmentos_nodup distintas pairs
  refine ⟨webBuffer, segmentos, _, built, pairs, frame, collected, fun punto => ⟨rfl, ?_, ?_⟩⟩
  · have sub : (punto.partes keys segmentos).Sublist ((keys.zip segmentos).map Prod.snd) :=
      List.filter_sublist.map _
    rw [List.map_snd_zip (Nat.le_of_eq size.symm)] at sub
    exact distintos.sublist sub
  · intro otro ajeno texto here there
    obtain ⟨⟨key, _⟩, own, rfl⟩ := List.mem_map.mp here
    obtain ⟨⟨otra, _⟩, other, same⟩ := List.mem_map.mp there
    obtain ⟨inZip, inGroup⟩ := List.mem_filter.mp own
    obtain ⟨inZip', inGroup'⟩ := List.mem_filter.mp other
    obtain rfl := same
    obtain rfl : key = otra := segmento_key (member inZip) (member inZip')
    exact grupo_wellFormed.2 punto otro ajeno key (by simpa using inGroup) (by simpa using inGroup')

/-- A card with a temperature of the engine and a tank. -/
def conTanque : Almacen :=
  (Registers.Store.empty.write "1_TEMPTRANS" ['0']).write "1_GREYWATER" ['6']

/-- The tank did not answer; its segment is the only one of its endpoint. -/
theorem endpointDiscriminator_particion_tanque
    : ∃ webBuffer puntos,
        webBufferConstructor 0 conTanque [.temptrans, .greywater]
            { ModulosResponse.cero with temperatura := true } conPosicion
          = .ok webBuffer
        ∧ endpointDiscriminator webBuffer = .ok puntos
        ∧ puntos .tanq = "|33:6:-|".toList := by
  have crecientes : [KeyValue.temptrans, .greywater].Pairwise (·.num < ·.num) := by
    decide
  obtain ⟨webBuffer, segmentos, puntos, built, pairs, -, collected, parts⟩ :=
    endpointDiscriminator_particion 0 conTanque crecientes
      { ModulosResponse.cero with temperatura := true } conPosicion_lista.1 conPosicion_lista.2
  refine ⟨webBuffer, puntos, built, collected, ?_⟩
  rw [(parts .tanq).1]
  rcases pairs with _ | ⟨first, _ | ⟨second, _ | _⟩⟩
  have engine : segmento 0 conTanque { ModulosResponse.cero with temperatura := true }
      conPosicion .temptrans = .ok "2:0:0".toList := rfl
  have tank : segmento 0 conTanque { ModulosResponse.cero with temperatura := true }
      conPosicion .greywater = .ok "33:6:-".toList := rfl
  obtain rfl := Except.ok.inj (engine.symm.trans first)
  obtain rfl := Except.ok.inj (tank.symm.trans second)
  rfl

end EspHttpControl.Serial
