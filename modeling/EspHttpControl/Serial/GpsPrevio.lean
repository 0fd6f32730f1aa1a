import EspHttpControl.Serial.TxTask

/-! Whether the position record is there when it is rendered.
Any item in the first wait makes the position count as answered, but the record is filled only
when `parse_data` accepts a frame.
-/

namespace EspHttpControl.Serial

open CText Nvs Machines

/-- The three waits of a cycle: `verificador` and the memory when they are over. -/
def esperas (atof : Str → UInt32) (t : TxTask) (v : Vuelta)
    : Except Fault (ModulosResponse × SerialRam) := do
  let (temperatura, ram) ← recibir atof v.temperatura (waitBits t.ram)
  let (digitalInput, ram) ← recibir atof v.digitalInput (waitBits ram)
  let (analogico, ram) ← recibir atof v.analogico ram
  return (verificadorDe v temperatura digitalInput analogico, ram)

/-- A cycle is its waits and, if a flag asks for it, the frame from what they left. -/
theorem ciclo_esperas (atof : Str → UInt32) (t : TxTask) (v : Vuelta)
    : ciclo atof t v = do
        let (verificador, ram) ← esperas atof t v
        if verificador.reconstruye then
          let webBuffer ← webBufferConstructor v.fuera v.nvs t.keysWithPorts verificador ram
          let puntos ← endpointDiscriminator webBuffer
          return ({ t with ram := ram, webBuffer := webBuffer, puntos := puntos }, true)
        else return ({ t with ram := ram }, false) := by
  simp only [ciclo, esperas, bind_assoc, pure_bind]

/-- `sensorGPS[0]` is as `allocate_data` leaves it. -/
def Rellenado (ram : SerialRam) : Prop := ram.sensorGPS = Vector.replicate 1 gpsFijo

theorem Rellenado.gps {ram : SerialRam} (filled : Rellenado ram) : ram.gps = gpsFijo := by
  have same : ram.sensorGPS = Vector.replicate 1 gpsFijo := filled
  simp [SerialRam.gps, same]

theorem Rellenado.listo {ram : SerialRam} (relleno : Rellenado ram) : GpsListo ram := by
  rw [Rellenado] at relleno
  simp [GpsListo, relleno, gpsFijo]

/-- A key is at the port of the position. -/
def MuestraGps (keys : List KeyValue) (nvs : Almacen) : Prop := ∃ key ∈ keys, puerto nvs key = 18

instance (keys : List KeyValue) (nvs : Almacen) : Decidable (MuestraGps keys nvs) :=
  inferInstanceAs (Decidable (∃ key ∈ keys, _))

/-- When the frame of a cycle shows the position, `allocate_data` has filled the record, so that
the timestamp is not NULL.
-/
def GpsExiste (atof : Str → UInt32) (t : TxTask) (v : Vuelta) : Prop :=
  ∀ verificador ram,
    esperas atof t v = .ok (verificador, ram)
    → verificador.reconstruye = true
    → verificador.gps = true
    → MuestraGps t.keysWithPorts v.nvs
    → Rellenado ram ∧ GpsListo ram

/-- The items received in a cycle. -/
def Vuelta.items (v : Vuelta) : List (List Char) :=
  [v.temperatura, v.digitalInput, v.analogico].filterMap id

theorem mem_items {v : Vuelta} {data : List Char}
    : data ∈ v.items ↔ data ∈ v.temperatura ∨ data ∈ v.digitalInput ∨ data ∈ v.analogico := by
  simp [Vuelta.items, eq_comm]

/-- An item of the cycle is not just refused: its frame is accepted, or it crashes the parser. -/
def Vuelta.Aporta (v : Vuelta) : Prop := ∃ data ∈ v.items, separar data ≠ .ok none

/-- If the first wait of a cycle is answered and a key is at the port of the position, then the
record has been filled before or an item of the cycle is not just refused.
-/
def Precavida (t : TxTask) (v : Vuelta) : Prop :=
  v.temperatura.isSome
  → MuestraGps t.keysWithPorts v.nvs
  → Rellenado t.ram ∨ v.Aporta

-----------------------------------------------------------------------------------------
-- One wait
-----------------------------------------------------------------------------------------

/-- A refused item changes nothing but the event bit. -/
theorem parseData_rechazado {data : List Char} (rechazado : separar data = .ok none)
    (atof : Str → UInt32) (ram : SerialRam)
    : parseData atof data ram = .ok (.espFail, { ram with notParsingData := true }) := by
  rw [parseData, rechazado]
  rfl

/-- A wait that ends well leaves the record filled exactly if it was filled or the item is not
just refused.
-/
theorem recibir_rellena {atof : Str → UInt32} {item : Option (List Char)} {ram ram' : SerialRam}
    {responde : Bool} (h : recibir atof item ram = .ok (responde, ram'))
    : Rellenado ram' ↔ Rellenado ram ∨ ∃ data ∈ item, separar data ≠ .ok none := by
  cases item with
  | none =>
      obtain ⟨-, rfl⟩ := Prod.mk.inj (Except.ok.inj h)
      simp
  | some data =>
      obtain ⟨⟨err, almacenado⟩, parsed, last⟩ := ok_of_bind h
      obtain ⟨-, rfl⟩ := Prod.mk.inj (Except.ok.inj last)
      obtain ⟨resultado, decoded, rest⟩ := ok_of_bind parsed
      cases resultado with
      | none =>
          obtain ⟨-, rfl⟩ := Prod.mk.inj (Except.ok.inj rest)
          simp [decoded, Rellenado]
      | some trama =>
          obtain ⟨_, stored, finished⟩ := ok_of_bind rest
          obtain ⟨-, rfl⟩ := Prod.mk.inj (Except.ok.inj finished)
          have filled := sensorGPS_allocateData stored
          simp [decoded, Rellenado, filled]

/-- A wait whose item, if any, is refused leaves the record as it was. -/
theorem recibir_rechazado {item : Option (List Char)}
    (rechazado : ∀ data ∈ item, separar data = .ok none) (atof : Str → UInt32) (ram : SerialRam)
    : ∃ ram', recibir atof item ram = .ok (false, ram') ∧ ram'.sensorGPS = ram.sensorGPS := by
  cases item with
  | none => exact ⟨ram, rfl, rfl⟩
  | some data =>
      rw [recibir, parseData_rechazado (rechazado data rfl)]
      exact ⟨_, rfl, rfl⟩

/-- The waits of a cycle fill the record exactly if an item is not just refused. -/
theorem esperas_rellena {atof : Str → UInt32} {t : TxTask} {v : Vuelta}
    {verificador : ModulosResponse} {ram : SerialRam}
    (h : esperas atof t v = .ok (verificador, ram))
    : Rellenado ram ↔ Rellenado t.ram ∨ v.Aporta := by
  obtain ⟨⟨temperatura, ram₁⟩, first, h⟩ := ok_of_bind h
  obtain ⟨⟨digitalInput, ram₂⟩, second, h⟩ := ok_of_bind h
  obtain ⟨⟨analogico, ram₃⟩, third, h⟩ := ok_of_bind h
  obtain ⟨-, rfl⟩ := Prod.mk.inj (Except.ok.inj h)
  have after₁ : Rellenado ram₁ ↔ Rellenado (waitBits t.ram) ∨ _ := recibir_rellena first
  have after₂ : Rellenado ram₂ ↔ Rellenado (waitBits ram₁) ∨ _ := recibir_rellena second
  have waited (ram : SerialRam) : Rellenado (waitBits ram) ↔ Rellenado ram := Iff.rfl
  rw [recibir_rellena third, after₂, waited, after₁, waited, Vuelta.Aporta]
  simp only [mem_items, or_and_right, exists_or, or_assoc]

-----------------------------------------------------------------------------------------
-- A cycle and a run
-----------------------------------------------------------------------------------------

/-- A cycle renders only an existing record exactly if it is careful. Witness: with all items
refused the waits end well and leave the record as it was.
-/
theorem gpsExiste_iff (atof : Str → UInt32) (t : TxTask) (v : Vuelta)
    : GpsExiste atof t v ↔ Precavida t v := by
  constructor
  · intro existe recibida muestra
    by_contra sin
    rw [not_or] at sin
    obtain ⟨vacio, rechazados⟩ := sin
    have refused {item : Option (List Char)} (among : ∀ data ∈ item, data ∈ v.items)
        : ∀ data ∈ item, separar data = .ok none := fun data member =>
      not_not.mp fun other => rechazados ⟨data, among data member, other⟩
    obtain ⟨ram₁, first, kept₁⟩ := recibir_rechazado
      (refused fun _ member => mem_items.mpr (Or.inl member)) atof (waitBits t.ram)
    obtain ⟨ram₂, second, kept₂⟩ := recibir_rechazado
      (refused fun _ member => mem_items.mpr (Or.inr (Or.inl member))) atof (waitBits ram₁)
    obtain ⟨ram₃, third, kept₃⟩ := recibir_rechazado
      (refused fun _ member => mem_items.mpr (Or.inr (Or.inr member))) atof ram₂
    have ended : esperas atof t v = .ok (verificadorDe v false false false, ram₃) := by
      simp only [esperas, first, second, third, bind, Except.bind]
      rfl
    have asked : (verificadorDe v false false false).gps = true := recibida
    have rebuilt : (verificadorDe v false false false).reconstruye = true := by
      simp [ModulosResponse.reconstruye, asked]
    obtain ⟨filled, -⟩ := existe _ _ ended rebuilt asked muestra
    rw [Rellenado, kept₃, kept₂] at filled
    exact vacio (kept₁.symm.trans filled)
  · intro precavida verificador ram ended _ asked muestra
    have recibida : v.temperatura.isSome = true := by
      obtain ⟨_, -, h⟩ := ok_of_bind ended
      obtain ⟨_, -, h⟩ := ok_of_bind h
      obtain ⟨_, -, h⟩ := ok_of_bind h
      obtain ⟨rfl, -⟩ := Prod.mk.inj (Except.ok.inj h)
      exact asked
    have filled := (esperas_rellena ended).mpr (precavida recibida muestra)
    exact ⟨filled, filled.listo⟩

/-- A finished cycle keeps the keys and fills the record exactly if it brought something. -/
theorem uartTxTask_rellena {atof : Str → UInt32} {t t' : TxTask} {v : Vuelta}
    (h : (uartTxTask atof).step t v = some t')
    : t'.keysWithPorts = t.keysWithPorts ∧ (Rellenado t'.ram ↔ Rellenado t.ram ∨ v.Aporta) := by
  obtain ⟨⟨next, reconstruido⟩, done, rfl⟩ := Option.map_eq_some_iff.mp h
  have done := ok_of_toOption done
  rw [ciclo_esperas] at done
  obtain ⟨⟨verificador, ram⟩, ended, rest⟩ := ok_of_bind done
  have filled := esperas_rellena ended
  dsimp only at rest
  split at rest
  · obtain ⟨webBuffer, -, rest⟩ := ok_of_bind rest
    obtain ⟨puntos, -, rest⟩ := ok_of_bind rest
    obtain ⟨rfl, -⟩ := Prod.mk.inj (Except.ok.inj rest)
    exact ⟨rfl, filled⟩
  · obtain ⟨rfl, -⟩ := Prod.mk.inj (Except.ok.inj rest)
    exact ⟨rfl, filled⟩

/-- The keys are those of the boot, and the record is filled exactly if some cycle brought
something.
-/
def Anotado (keys : List KeyValue) (before : List Vuelta) (t : TxTask) : Prop :=
  t.keysWithPorts = keys ∧ (Rellenado t.ram ↔ ∃ w ∈ before, w.Aporta)

theorem anotado_run {atof : Str → UInt32} {keys : List KeyValue} {before : List Vuelta}
    {t : TxTask} (h : (uartTxTask atof).run (TxTask.inicial keys) before = some t)
    : Anotado keys before t := by
  have start : Anotado keys [] (TxTask.inicial keys) := by
    have empty : ¬Rellenado SerialRam.inicial := by
      simp [Rellenado, SerialRam.inicial, gpsFijo]
    simp [Anotado, empty, TxTask.inicial]
  refine Machine.history_run start (fun before t v t' _ history taken => ?_) h
  obtain ⟨kept, filled⟩ := uartTxTask_rellena taken
  refine ⟨kept.trans history.1, ?_⟩
  rw [filled, history.2]
  simp [or_and_right, exists_or]

/-- From boot, the position is rendered only after its record was filled exactly in the runs in
which, whenever the first wait of a cycle is answered while a key is at the port of the
position, that cycle or an earlier one received an item that was not just refused. Witness:
`gpsExiste_iff` at every cycle that the run reaches.
-/
theorem gps_existe_iff (atof : Str → UInt32) (keys : List KeyValue) (vueltas : List Vuelta)
    : (uartTxTask atof).Along (GpsExiste atof) (TxTask.inicial keys) vueltas
      ↔ ∀ before v after,
          vueltas = before ++ v :: after
          → ((uartTxTask atof).run (TxTask.inicial keys) before).isSome
          → v.temperatura.isSome
          → MuestraGps keys v.nvs
          → ∃ w ∈ before ++ [v], w.Aporta := by
  have careful {before : List Vuelta} {t : TxTask} (v : Vuelta)
      (reached : (uartTxTask atof).run (TxTask.inicial keys) before = some t)
      : GpsExiste atof t v
        ↔ (v.temperatura.isSome → MuestraGps keys v.nvs → ∃ w ∈ before ++ [v], w.Aporta) := by
    obtain ⟨kept, filled⟩ := anotado_run reached
    rw [gpsExiste_iff, Precavida, kept, filled]
    simp [or_and_right, exists_or]
  rw [Machine.along_iff]
  constructor
  · intro holds before v after same reached
    obtain ⟨t, reached⟩ := Option.isSome_iff_exists.mp reached
    exact (careful v reached).mp (holds before v after same t reached)
  · intro holds before v after same t reached
    exact (careful v reached).mpr (holds before v after same (by simp [reached]))

/-- A card whose only key is the position. -/
def conGnss : Almacen := Registers.Store.empty.write "1_GNSS_GGA" ['1', '8']

/-- The first reply after a boot is noise: the position is rendered without a record. -/
theorem gps_sin_registro
    : ¬∀ (atof : Str → UInt32) (keys : List KeyValue) (vueltas : List Vuelta),
        (uartTxTask atof).Along (GpsExiste atof) (TxTask.inicial keys) vueltas := by
  intro claim
  have first := (claim (fun _ => 0) [.gnssGga] [⟨some ['x'], none, none, conGnss, 0⟩]).1
  have shown : MuestraGps [.gnssGga] conGnss := by
    decide +kernel
  rcases (gpsExiste_iff _ _ _).mp first rfl shown with filled | ⟨data, received, other⟩
  · simp [Rellenado, TxTask.inicial, SerialRam.inicial, gpsFijo] at filled
  · rcases mem_items.mp received with item | item | item
    · obtain rfl := Option.some.inj item
      exact other (by decide +kernel)
    · cases item
    · cases item

end EspHttpControl.Serial
