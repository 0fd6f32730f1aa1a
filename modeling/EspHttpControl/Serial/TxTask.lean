import EspHttpControl.Machines.Runs
import EspHttpControl.Serial.Publicacion

/-! The cycle of `UART_tx_task`: three requests with at most one reply each, then the web frame.
Replies are whatever item the queue delivers within the wait of a request; delays are not
modelled beyond that.
-/

namespace EspHttpControl.Serial

open CText Nvs Machines

/-- What the task keeps from one cycle to the next. -/
structure TxTask where
  ram : SerialRam
  keysWithPorts : List KeyValue
  webBuffer : Str
  puntos : PuntoWeb → Str

/-- The task when its loop begins: static memory is zero and the frame is a lone bar. -/
def TxTask.inicial (keysWithPorts : List KeyValue) : TxTask :=
  {
    ram := .inicial
    keysWithPorts := keysWithPorts
    webBuffer := ['|']
    puntos := fun _ => []
  }

/-- What the environment decides in one cycle: the memory behind each received item, if any,
the storage when the frame is built, and what lies outside the arrays.
-/
structure Vuelta where
  temperatura : Option (List Char)
  digitalInput : Option (List Char)
  analogico : Option (List Char)
  nvs : Almacen
  fuera : Int32

/-- `xEventGroupWaitBits` on the bit `not_parsing_data`, which is clear afterwards. -/
def waitBits (ram : SerialRam) : SerialRam := { ram with notParsingData := false }

/-- `xQueueReceive` and the parsing of the item; the flag says whether `parse_data` accepted. -/
def recibir (atof : Str → UInt32) (item : Option (List Char)) (ram : SerialRam)
    : Except Fault (Bool × SerialRam) :=
  match item with
  | none => .ok (false, ram)
  | some data => do
    let (err, ram) ← parseData atof data ram
    return (err = .espOk, ram)

/-- The condition for building the frame, which does not ask for the digital inputs. -/
def ModulosResponse.reconstruye (v : ModulosResponse) : Bool :=
  v.temperatura || v.liquido || v.inclinacion || v.gps || v.analogico || v.digitalOutput
    || v.ventilador

/-- `verificador` after the three waits: each flag says whether its own wait was answered, and
the position counts as answered with any item in the first wait, accepted or not.
-/
def verificadorDe (v : Vuelta) (temperatura digitalInput analogico : Bool) : ModulosResponse :=
  { ModulosResponse.cero with
    temperatura := temperatura
    gps := v.temperatura.isSome
    digitalInput := digitalInput
    analogico := analogico }

/-- One turn of the loop of `UART_tx_task`, and whether it built the frame. -/
def ciclo (atof : Str → UInt32) (t : TxTask) (v : Vuelta) : Except Fault (TxTask × Bool) := do
  let (temperatura, ram) ← recibir atof v.temperatura (waitBits t.ram)
  let (digitalInput, ram) ← recibir atof v.digitalInput (waitBits ram)
  let (analogico, ram) ← recibir atof v.analogico ram
  let verificador := verificadorDe v temperatura digitalInput analogico
  if verificador.reconstruye then
    let webBuffer ← webBufferConstructor v.fuera v.nvs t.keysWithPorts verificador ram
    let puntos ← endpointDiscriminator webBuffer
    return ({ t with ram := ram, webBuffer := webBuffer, puntos := puntos }, true)
  else return ({ t with ram := ram }, false)

/-- The task as a machine; a fault ends it. -/
def uartTxTask (atof : Str → UInt32) : Machine TxTask Vuelta where
  step t v := (ciclo atof t v).toOption.map Prod.fst

-----------------------------------------------------------------------------------------
-- What a cycle should publish
-----------------------------------------------------------------------------------------

/-- The module number of a frame that `parse_data` accepts. -/
def moduloDe (data : List Char) : Option UInt8 :=
  match separar data with
  | .ok (some trama) => some trama.module
  | _ => none

/-- The module numbers of the frames accepted in a cycle. -/
def Vuelta.aceptados (v : Vuelta) : List UInt8 :=
  [v.temperatura, v.digitalInput, v.analogico].filterMap fun item => item.bind moduloDe

inductive Pedido
  | temperature | digitalInput | analogico
deriving DecidableEq, Repr

namespace Pedido

def modulo : Pedido → ModulosApp
  | .temperature => .temperatureSensors
  | .digitalInput => .digitalInputSensors
  | .analogico => .analogicoSensors

/-- The first port and the number of ports of the module. -/
def puertos : Pedido → Nat × Nat
  | .temperature => (0, 3)
  | .digitalInput => (4, 1)
  | .analogico => (10, 8)

def Tiene (X : Pedido) (port : UInt8) : Prop :=
  X.puertos.1 ≤ port.toNat ∧ port.toNat < X.puertos.1 + X.puertos.2

instance (X : Pedido) (port : UInt8) : Decidable (X.Tiene port) :=
  inferInstanceAs (Decidable (_ ∧ _))

/-- The item received in the wait of the module's own request. -/
def item (v : Vuelta) : Pedido → Option (List Char)
  | .temperature => v.temperatura
  | .digitalInput => v.digitalInput
  | .analogico => v.analogico

/-- The module's own wait brought an accepted frame. -/
def Contestado (X : Pedido) (v : Vuelta) : Prop := ((X.item v).bind moduloDe).isSome

instance (X : Pedido) (v : Vuelta) : Decidable (X.Contestado v) :=
  inferInstanceAs (Decidable (_ = true))

def marca (verificador : ModulosResponse) : Pedido → Bool
  | .temperature => verificador.temperatura
  | .digitalInput => verificador.digitalInput
  | .analogico => verificador.analogico

/-- The values of the module at one of its ports. -/
def valoresEn (X : Pedido) (ram : SerialRam) (port : UInt8) : List Int32 :=
  (ram.valores X.modulo)[port.toNat - X.puertos.1]?.getD []

end Pedido

/-- What a cycle that accepted a frame should leave: a frame built in the same cycle, in which
the segment of each key at a port of a requested module shows that module's values if one of
the accepted frames carries its number, and `-` otherwise.
-/
def Publica (atof : Str → UInt32) (t : TxTask) (v : Vuelta) : Prop :=
  ∀ t' reconstruido,
    ciclo atof t v = .ok (t', reconstruido)
    → v.aceptados ≠ []
    → reconstruido = true
      ∧ ∀ (i : Nat) (key : KeyValue) (X : Pedido),
          t.keysWithPorts[i]? = some key
          → X.Tiene (puerto v.nvs key)
          → (fields ['|'] t'.webBuffer)[i]?
            = some (sprintD key.num.toNat ++ ':' :: sprintD (puerto v.nvs key).toNat ++ ':' ::
                siResponde (X.modulo.num ∈ v.aceptados)
                  (unidos (X.valoresEn t'.ram (puerto v.nvs key))))

/-- The cycles that publish what they should: nothing was accepted; or the frame is built,
and each key at a port of a requested module finds that module's own wait answered exactly
when a frame with its number was accepted, and not answered for the digital input.
-/
def Concuerda (t : TxTask) (v : Vuelta) : Prop :=
  v.aceptados = []
  ∨ (v.temperatura.isSome ∨ Pedido.analogico.Contestado v)
    ∧ ∀ key ∈ t.keysWithPorts, ∀ X : Pedido,
        X.Tiene (puerto v.nvs key)
        → (X.modulo.num ∈ v.aceptados ↔ X.Contestado v)
          ∧ (X = .digitalInput → ¬X.Contestado v)

theorem sensorGPS_allocateData {atof : Str → UInt32} {portMin portMax module : UInt8}
    {sensorData : List Str} {ram ram' : SerialRam}
    (h : allocateData atof portMin portMax module sensorData ram = .ok ram')
    : ram'.sensorGPS = Vector.replicate 1 gpsFijo := by
  obtain ⟨almacenado, -, rest⟩ := ok_of_bind h
  exact Except.ok.inj rest ▸ rfl

/-- A finished parse accepts exactly the frames that have a module number, and it leaves no
bar in the timestamp.
-/
theorem parseData_cases {atof : Str → UInt32} {data : List Char} {ram ram' : SerialRam}
    {err : EspErr} (h : parseData atof data ram = .ok (err, ram'))
    : (err = .espOk ↔ (moduloDe data).isSome) ∧ (SinBarra ram → SinBarra ram') := by
  obtain ⟨resultado, decoded, rest⟩ := ok_of_bind h
  cases resultado with
  | none =>
      obtain ⟨rfl, rfl⟩ := Prod.mk.inj (Except.ok.inj rest)
      exact ⟨by simp [moduloDe, decoded], fun limpio => limpio⟩
  | some trama =>
      obtain ⟨almacenado, stored, last⟩ := ok_of_bind rest
      obtain ⟨rfl, rfl⟩ := Prod.mk.inj (Except.ok.inj last)
      refine ⟨by simp [moduloDe, decoded], fun _ timestamp found => ?_⟩
      simp only [sensorGPS_allocateData stored] at found
      obtain rfl := Option.some.inj found
      decide

/-- A finished wait is answered exactly by an item with an accepted frame. -/
theorem recibir_cases {atof : Str → UInt32} {item : Option (List Char)} {ram ram' : SerialRam}
    {responde : Bool} (h : recibir atof item ram = .ok (responde, ram'))
    : (responde = true ↔ (item.bind moduloDe).isSome) ∧ (SinBarra ram → SinBarra ram') := by
  cases item with
  | none =>
      obtain ⟨rfl, rfl⟩ := Prod.mk.inj (Except.ok.inj h)
      exact ⟨by simp, fun limpio => limpio⟩
  | some data =>
      obtain ⟨⟨err, almacenado⟩, parsed, last⟩ := ok_of_bind h
      obtain ⟨rfl, rfl⟩ := Prod.mk.inj (Except.ok.inj last)
      have facts := parseData_cases parsed
      exact ⟨by simpa using facts.1, facts.2⟩

/-- What a finished cycle did: the flags say which waits were answered, and either the frame
was built from the final arrays with these flags, or no flag asked for it.
-/
theorem ciclo_cases {atof : Str → UInt32} {t t' : TxTask} {v : Vuelta} {reconstruido : Bool}
    (h : ciclo atof t v = .ok (t', reconstruido))
    : ∃ verificador : ModulosResponse,
        (∀ X : Pedido, X.marca verificador = true ↔ X.Contestado v)
        ∧ verificador.gps = v.temperatura.isSome
        ∧ reconstruido = verificador.reconstruye
        ∧ (SinBarra t.ram → SinBarra t'.ram)
        ∧ (reconstruido = true
          → webBufferConstructor v.fuera v.nvs t.keysWithPorts verificador t'.ram
            = .ok t'.webBuffer) := by
  obtain ⟨⟨temperatura, ram₁⟩, first, h⟩ := ok_of_bind h
  obtain ⟨⟨digitalInput, ram₂⟩, second, h⟩ := ok_of_bind h
  obtain ⟨⟨analogico, ram₃⟩, third, h⟩ := ok_of_bind h
  have limpio : SinBarra t.ram → SinBarra ram₃ := fun limpio =>
    (recibir_cases third).2 ((recibir_cases second).2 ((recibir_cases first).2 limpio))
  have flags (X : Pedido) : X.marca (verificadorDe v temperatura digitalInput analogico) = true
      ↔ X.Contestado v := by
    cases X with
    | temperature => exact (recibir_cases first).1
    | digitalInput => exact (recibir_cases second).1
    | analogico => exact (recibir_cases third).1
  refine ⟨verificadorDe v temperatura digitalInput analogico, flags, rfl, ?_⟩
  by_cases asked : (verificadorDe v temperatura digitalInput analogico).reconstruye = true
  · simp only [asked, ↓reduceIte] at h
    obtain ⟨webBuffer, built, h⟩ := ok_of_bind h
    obtain ⟨puntos, -, h⟩ := ok_of_bind h
    obtain ⟨rfl, rfl⟩ := Prod.mk.inj (Except.ok.inj h)
    exact ⟨asked.symm, limpio, fun _ => built⟩
  · simp only [asked] at h
    obtain ⟨rfl, rfl⟩ := Prod.mk.inj (Except.ok.inj h)
    exact ⟨(Bool.eq_false_iff.mpr asked).symm, limpio, fun absurd => by cases absurd⟩

/-- The branch of a requested module's port shows that module's array, except that a digital
input that answered is looked up in no cell of its array.
-/
theorem cuerpo_pedido {X : Pedido} {port : UInt8} (tiene : X.Tiene port)
    {verificador : ModulosResponse}
    (leida : X = .digitalInput → verificador.digitalInput = false) (fuera : Int32)
    (ram : SerialRam)
    : cuerpo fuera verificador ram port
      = .ok (siResponde (X.marca verificador) (unidos (X.valoresEn ram port))) := by
  obtain ⟨low, high⟩ := tiene
  cases X with
  | temperature =>
      have inside : port.toNat < Publicado.temperature.puertos := by
        simp only [Pedido.puertos] at high
        rw [Publicado.puertos]
        omega
      have same : Publicado.temperature.puerto port.toNat = port := by
        simp [Publicado.puerto, Publicado.primero]
      have branch := cuerpo_puerto .temperature inside fuera verificador ram
      rw [same] at branch
      exact branch
  | digitalInput =>
      have only : port = 4 := by
        simp only [Pedido.puertos] at low high
        exact UInt8.toNat_inj.mp (by simp; omega)
      subst only
      simp [cuerpo, leida rfl, Pedido.marca, siResponde]
  | analogico =>
      simp only [Pedido.puertos] at low high
      have inside : port.toNat - 10 < Publicado.analogico.puertos := by
        rw [Publicado.puertos]
        omega
      have same : Publicado.analogico.puerto (port.toNat - 10) = port := by
        rw [Publicado.puerto, Publicado.primero, Nat.add_sub_cancel' low, UInt8.ofNat_toNat]
      have branch := cuerpo_puerto .analogico inside fuera verificador ram
      rw [same] at branch
      exact branch

/-- A cycle that agrees with its frames publishes what it should, by the branch of each port. -/
theorem Concuerda.publica {t : TxTask} {v : Vuelta} (concuerda : Concuerda t v)
    (limpio : SinBarra t.ram) (atof : Str → UInt32)
    : Publica atof t v := by
  intro t' reconstruido h accepted
  obtain ⟨verificador, flags, gps, decided, keeps, built⟩ := ciclo_cases h
  rcases concuerda with none | ⟨asked, agree⟩
  · exact absurd none accepted
  have rebuilt : reconstruido = true := by
    rw [decided, ModulosResponse.reconstruye]
    rcases asked with received | answered
    · simp [gps, received]
    · have analogico : verificador.analogico = true := (flags .analogico).mpr answered
      simp [analogico]
  refine ⟨rebuilt, ?_⟩
  intro i key X registered port
  have pairs := fields_webBuffer (keeps limpio) (built rebuilt)
  obtain ⟨inKeys, at_key⟩ := List.getElem?_eq_some_iff.mp registered
  have inFields : i < (fields ['|'] t'.webBuffer).length := pairs.length_eq ▸ inKeys
  have segment := pairs.get inKeys inFields
  rw [List.get_eq_getElem, at_key] at segment
  obtain ⟨carried, unread⟩ := agree key (List.mem_of_getElem? registered) X port
  have body : cuerpo v.fuera verificador t'.ram (puerto v.nvs key)
      = .ok (siResponde (X.modulo.num ∈ v.aceptados)
          (unidos (X.valoresEn t'.ram (puerto v.nvs key)))) := by
    have shown : X.marca verificador = decide (X.modulo.num ∈ v.aceptados) := by
      rw [Bool.eq_iff_iff, decide_eq_true_iff, flags X, carried]
    rw [← shown]
    refine cuerpo_pedido port (fun digital => ?_) v.fuera t'.ram
    subst digital
    exact Bool.eq_false_iff.mpr fun answered => unread rfl ((flags .digitalInput).mp answered)
  rw [segmento, body] at segment
  rw [List.getElem?_eq_getElem inFields]
  exact congrArg some (Except.ok.inj segment).symm

theorem uartTxTask_limpio {atof : Str → UInt32} {t t' : TxTask} {v : Vuelta}
    (limpio : SinBarra t.ram) (h : (uartTxTask atof).step t v = some t')
    : SinBarra t'.ram := by
  obtain ⟨⟨next, reconstruido⟩, done, rfl⟩ := Option.map_eq_some_iff.mp h
  obtain ⟨_, _, _, _, keeps, _⟩ := ciclo_cases (ok_of_toOption done)
  exact keeps limpio

/-- Along every run from boot whose cycles all agree with their frames, every cycle publishes
what it should. Witness: the run rule for guarded steps, with the clean timestamp as invariant.
-/
theorem uartTxTask_publica (atof : Str → UInt32) (keys : List KeyValue) (vueltas : List Vuelta)
    (concuerdan : (uartTxTask atof).Along Concuerda (TxTask.inicial keys) vueltas)
    : (uartTxTask atof).Along (Publica atof) (TxTask.inicial keys) vueltas := by
  have start : SinBarra (TxTask.inicial keys).ram := by
    intro timestamp found
    cases found
  have holds : ∀ t v, SinBarra t.ram → Concuerda t v → Publica atof t v :=
    fun _ _ limpio concuerda => concuerda.publica limpio atof
  have preserved : ∀ t v t', SinBarra t.ram → Concuerda t v
      → (uartTxTask atof).step t v = some t' → SinBarra t'.ram :=
    fun _ _ _ limpio _ h => uartTxTask_limpio limpio h
  exact Machine.along_of_guard holds preserved start concuerdan

/-- A cycle whose first and last waits are answered by their own modules. -/
theorem uartTxTask_publica_contestada
    : (uartTxTask fun _ => 0).Along (Publica fun _ => 0) (TxTask.inicial [.temptrans])
        [⟨some "p0-0d21m1".toList, none, some "p10-10d1:2m9".toList,
          writexNvs .empty "1_TEMPTRANS" "0".toList, 0⟩] := by
  refine uartTxTask_publica (fun _ => 0) _ _
    ⟨Or.inr ⟨Or.inl rfl, ?_⟩, fun _ _ => trivial⟩
  intro key member X port
  obtain rfl := List.mem_singleton.mp member
  cases X with
  | temperature => exact ⟨by decide +kernel, by simp⟩
  | digitalInput => exact absurd port (by decide +kernel)
  | analogico => exact absurd port (by decide +kernel)

/-- A frame of the digital inputs alone is accepted without the web frame being built. -/
theorem uartTxTask_sin_publicar
    : ¬∀ (atof : Str → UInt32) (keys : List KeyValue) (vueltas : List Vuelta),
        (uartTxTask atof).Along (Publica atof) (TxTask.inicial keys) vueltas := by
  intro all
  have cycle := (all (fun _ => 0) [.inputDigital1]
    [⟨none, some "p4-4d1m4".toList, none, .empty, 0⟩]).1
  have accepted : Vuelta.aceptados ⟨none, some "p4-4d1m4".toList, none, .empty, 0⟩ ≠ [] := by
    decide +kernel
  have skipped : (ciclo (fun _ => 0) (TxTask.inicial [.inputDigital1])
      ⟨none, some "p4-4d1m4".toList, none, .empty, 0⟩).toOption.map Prod.snd = some false := by
    decide +kernel
  obtain ⟨⟨t', reconstruido⟩, done, rfl⟩ := Option.map_eq_some_iff.mp skipped
  obtain ⟨rebuilt, -⟩ := cycle t' _ (ok_of_toOption done) accepted
  cases rebuilt

end EspHttpControl.Serial
