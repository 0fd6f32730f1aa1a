import EspHttpControl.CText.Pieces
import EspHttpControl.Machines.Accounts
import EspHttpControl.Serial.GpsPrevio
import EspHttpControl.Serial.PuntosWeb

/-! `UART_tx_task` one statement after another.
`web_buffer_constructor` and `endpoint_discriminator` write the texts that other tasks read with
one `strcpy` or `strcat` after another. Each of these calls is one step here, and between two
steps the other tasks may write to the storage and take copies of the texts. The runs begin with
the loop of the task: `web_buffer` has been allocated and holds the bar of its first `strcpy`.
All texts are taken to fit.
-/

namespace EspHttpControl.Serial

open CText Nvs Machines

-----------------------------------------------------------------------------------------
-- The pieces of a segment
-----------------------------------------------------------------------------------------

/-- The argument of a `strcat`, which may be NULL. -/
abbrev Pieza := Option Str

def piezasDe (valores : List Int32) : List Pieza :=
  ((valores.map fun v => sprintD v.toInt).intersperse [':']).map some

def GPS.piezas (x : GPS) : List Pieza :=
  [some (sprintD x.valor1.toNat), some [':'], x.valor2, some [':'], some (sprintF x.valor3),
    some [':'], some (sprintF x.valor4), some [':'], some (sprintD x.valor5.toNat)]

def siRespondePiezas (responde : Bool) (piezas : List Pieza) : List Pieza :=
  if responde then piezas else [some ['-']]

/-- The calls of `strcat` in the branch that the port selects. -/
def cuerpoPiezas (fuera : Int32) (verificador : ModulosResponse) (ram : SerialRam)
    (portAssociated : UInt8)
    : List Pieza :=
  let position := (vectorPositions portAssociated).toNat
  if portAssociated ≤ 2 then
    siRespondePiezas verificador.temperatura
      (piezasDe (load ram.temperatura position ⟨fuera⟩).valores)
  else if portAssociated = 4 then
    siRespondePiezas verificador.digitalInput
      (piezasDe (load ram.digitalInput position ⟨fuera⟩).valores)
  else if portAssociated ≥ 5 ∧ portAssociated ≤ 8 then
    siRespondePiezas verificador.liquido
      (piezasDe (load ram.tanque position ⟨fuera, fuera, fuera, fuera, fuera⟩).valores)
  else if portAssociated = 9 then
    siRespondePiezas verificador.inclinacion
      (piezasDe (load ram.inclinacion position ⟨fuera, fuera, fuera⟩).valores)
  else if portAssociated ≥ 10 ∧ portAssociated ≤ 17 then
    siRespondePiezas verificador.analogico
      (piezasDe (load ram.analogico position ⟨fuera, fuera⟩).valores)
  else if portAssociated = 18 then
    if verificador.gps then
      (load ram.sensorGPS position ⟨false, none, 0, 0, 0, 0, 0, 0⟩).piezas
    else [some ['-']]
  else if portAssociated ≥ 40 ∧ portAssociated ≤ 41 then
    siRespondePiezas verificador.ventilador
      (piezasDe (load ram.ventilador position ⟨fuera⟩).valores)
  else if portAssociated ≥ 42 ∧ portAssociated ≤ 43 then
    siRespondePiezas verificador.digitalOutput
      (piezasDe (load ram.interruptor position ⟨fuera⟩).valores)
  else []

/-- The calls of `strcat` behind the read of a key's port, up to the bar. -/
def piezasTrasPuerto (fuera : Int32) (nvs : Almacen) (verificador : ModulosResponse)
    (ram : SerialRam) (key : KeyValue)
    : List Pieza :=
  some (sprintD (puerto nvs key).toNat) :: some [':'] ::
    cuerpoPiezas fuera verificador ram (puerto nvs key)

/-- All pieces of a segment. -/
def segmentoPiezas (fuera : Int32) (nvs : Almacen) (verificador : ModulosResponse)
    (ram : SerialRam) (key : KeyValue)
    : List Pieza :=
  some (sprintD key.num.toNat) :: some [':'] :: piezasTrasPuerto fuera nvs verificador ram key

/-- What the pieces make, with the fault of a NULL among them. -/
def junta (piezas : List Pieza) : Except Fault Str :=
  match joined piezas with
  | none => .error .nullPointer
  | some texto => .ok texto

theorem junta_piezasDe (valores : List Int32) : junta (piezasDe valores) = .ok (unidos valores) := by
  rw [junta, piezasDe, joined_intersperse, unidos]

theorem junta_siResponde (responde : Bool) (valores : List Int32)
    : junta (siRespondePiezas responde (piezasDe valores))
      = .ok (siResponde responde (unidos valores)) := by
  cases responde with
  | false => rfl
  | true => exact junta_piezasDe valores

theorem junta_gps (x : GPS) : junta x.piezas = x.texto := by
  obtain ⟨valor1, valor2, valor3, valor4, valor5, valor6, valor7, valor8⟩ := x
  cases valor2 with
  | none => rfl
  | some timestamp =>
      simp [junta, GPS.piezas, GPS.texto, joined, List.intercalate, List.intersperse]

/-- The branch makes its text of its pieces, by the branches of the port. -/
theorem junta_cuerpo (fuera : Int32) (verificador : ModulosResponse) (ram : SerialRam)
    (portAssociated : UInt8)
    : junta (cuerpoPiezas fuera verificador ram portAssociated)
      = cuerpo fuera verificador ram portAssociated := by
  simp only [cuerpoPiezas, cuerpo]
  split
  · exact junta_siResponde _ _
  split
  · exact junta_siResponde _ _
  split
  · exact junta_siResponde _ _
  split
  · exact junta_siResponde _ _
  split
  · exact junta_siResponde _ _
  split
  · split
    · exact junta_gps _
    · rfl
  split
  · exact junta_siResponde _ _
  split
  · exact junta_siResponde _ _
  · rfl

theorem junta_append (hechas : List Str) (faltan : List Pieza)
    : junta (hechas.map some ++ faltan) = (junta faltan).map (hechas.flatten ++ ·) := by
  rw [junta, joined_append_some, junta]
  cases joined faltan <;> rfl

/-- A segment is what its pieces make. -/
theorem junta_segmento (fuera : Int32) (nvs : Almacen) (verificador : ModulosResponse)
    (ram : SerialRam) (key : KeyValue)
    : junta (segmentoPiezas fuera nvs verificador ram key)
      = segmento fuera nvs verificador ram key := by
  have front := junta_append
    [sprintD key.num.toNat, [':'], sprintD (puerto nvs key).toNat, [':']]
    (cuerpoPiezas fuera verificador ram (puerto nvs key))
  have same : segmentoPiezas fuera nvs verificador ram key
      = [sprintD key.num.toNat, [':'], sprintD (puerto nvs key).toNat, [':']].map some
        ++ cuerpoPiezas fuera verificador ram (puerto nvs key) :=
    rfl
  rw [same, front, junta_cuerpo, segmento]
  cases cuerpo fuera verificador ram (puerto nvs key) with
  | error fault => rfl
  | ok texto => simp [Except.map, bind, Except.bind, pure, Except.pure]

-----------------------------------------------------------------------------------------
-- The task
-----------------------------------------------------------------------------------------

/-- Where the task is between two statements. -/
inductive Control
  /-- Outside of the two functions. -/
  | espera
  /-- At the first `strcpy` of `web_buffer_constructor`. -/
  | abre
  /-- At the head of its loop, with the keys that are still to be rendered. -/
  | clave (keys : List KeyValue)
  | dosPuntos (key : KeyValue) (keys : List KeyValue)
  /-- At the read of the key's port. -/
  | puerto (key : KeyValue) (keys : List KeyValue)
  | piezas (faltan : List Pieza) (keys : List KeyValue)
  /-- At the first `strcpy`s of `endpoint_discriminator`. -/
  | borra (puntos : List PuntoWeb)
  /-- At the copy of the frame and its split. -/
  | copia
  /-- At the head of its loop, with the tokens that are still to be handed out. -/
  | token (tokens : List Str)
  | anade (destinos : List PuntoWeb) (buffer : Str) (tokens : List Str)
  | cierra (punto : PuntoWeb) (destinos : List PuntoWeb) (buffer : Str) (tokens : List Str)
deriving DecidableEq

/-- The task with the texts that the other tasks read and the storage that they write. -/
structure Escritor where
  ram : SerialRam
  keysWithPorts : List KeyValue
  verificador : ModulosResponse
  fuera : Int32
  webBuffer : Str
  puntos : PuntoWeb → Str
  control : Control
  nvs : Almacen

/-- The task when its loop begins, behind the `malloc` and the first `strcpy` of `web_buffer`. -/
def Escritor.inicial (nvs : Almacen) (keysWithPorts : List KeyValue) : Escritor :=
  {
    ram := .inicial
    keysWithPorts := keysWithPorts
    verificador := .cero
    fuera := 0
    webBuffer := ['|']
    puntos := fun _ => []
    control := .espera
    nvs := nvs
  }

/-- The endpoints in the order in which they are emptied. -/
def ordenBorrado : List PuntoWeb :=
  [.trans, .temp, .tanq, .disp, .motor, .bat, .interrup, .tempo, .gnss]

/-- The endpoints in the order in which a token is compared with their groups. -/
def ordenReparto : List PuntoWeb :=
  [.trans, .temp, .tanq, .disp, .bat, .motor, .interrup, .tempo, .gnss]

/-- The endpoints that a number is handed out to, once for each time that it is in a group. -/
def destinos (number : UInt8) : List PuntoWeb :=
  ordenReparto.flatMap fun punto =>
    (punto.grupo.filter fun key => number = key.num).map fun _ => punto

namespace Escritor

/-- `strcat(web_buffer, texto)` -/
def concatena (e : Escritor) (texto : Str) : Escritor := { e with webBuffer := e.webBuffer ++ texto }

def conPuntos (e : Escritor) (puntos : PuntoWeb → Str) : Escritor := { e with puntos := puntos }

def conPunto (e : Escritor) (punto : PuntoWeb) (texto : Str) : Escritor :=
  e.conPuntos (Function.update e.puntos punto texto)

def en (e : Escritor) (control : Control) : Escritor := { e with control := control }

/-- The next statement of the task; NULL ends it. -/
def tx (e : Escritor) : Option Escritor :=
  match e.control with
  | .espera => some e
  | .abre => some ({ e with webBuffer := ['|'] }.en (.clave e.keysWithPorts))
  | .clave [] => some (e.en (.borra ordenBorrado))
  | .clave (key :: keys) => some ((e.concatena (sprintD key.num.toNat)).en (.dosPuntos key keys))
  | .dosPuntos key keys => some ((e.concatena [':']).en (.puerto key keys))
  | .puerto key keys =>
    some (e.en (.piezas
      (piezasTrasPuerto e.fuera e.nvs e.verificador e.ram key ++ [some ['|']]) keys))
  | .piezas [] keys => some (e.en (.clave keys))
  | .piezas (none :: _) _ => none
  | .piezas (some texto :: faltan) keys => some ((e.concatena texto).en (.piezas faltan keys))
  | .borra [] => some (e.en .copia)
  | .borra (punto :: puntos) => some ((e.conPunto punto ['|']).en (.borra puntos))
  | .copia => some (e.en (.token (splitSensors e.webBuffer ['|']).1))
  | .token [] => some (e.en .espera)
  | .token (buffer :: tokens) =>
    (strtok [':'] (some buffer)).1.map fun texto =>
      e.en (.anade (destinos (atoi texto).toUInt32.toUInt8) buffer tokens)
  | .anade [] _ tokens => some (e.en (.token tokens))
  | .anade (punto :: resto) buffer tokens =>
    some ((e.conPunto punto (e.puntos punto ++ buffer)).en (.cierra punto resto buffer tokens))
  | .cierra punto resto buffer tokens =>
    some ((e.conPunto punto (e.puntos punto ++ ['|'])).en (.anade resto buffer tokens))

/-- What the functional model keeps of the task. -/
def txTask (e : Escritor) : TxTask := ⟨e.ram, e.keysWithPorts, e.webBuffer, e.puntos⟩

end Escritor

/-- What happens to the task and to the storage. -/
inductive Entrada
  /-- The waits of a turn, with the items that they receive. -/
  | esperas (temperatura digitalInput analogico : Option (List Char)) (fuera : Int32)
  /-- The next statement. -/
  | tx
  /-- Another task writes to the storage. -/
  | nvs (nvs : Almacen)

/-- The waits come only when the statements of the turn before are done. -/
def Escritor.paso (atof : Str → UInt32) (e : Escritor) : Entrada → Option Escritor
  | .esperas temperatura digitalInput analogico fuera =>
    match e.control with
    | .espera =>
      match esperas atof e.txTask ⟨temperatura, digitalInput, analogico, e.nvs, fuera⟩ with
      | .error _ => none
      | .ok (verificador, ram) =>
        some { e with
          ram := ram
          verificador := verificador
          fuera := fuera
          control := if verificador.reconstruye then .abre else .espera }
    | _ => some e
  | .tx => e.tx
  | .nvs nvs => some { e with nvs := nvs }

/-- The task among the others. -/
def escritor (atof : Str → UInt32) : Machine Escritor Entrada where
  step := Escritor.paso atof

section Alone

variable (atof : Str → UInt32)

theorem concatena_concatena (e : Escritor) (primera segunda : Str)
    : (e.concatena primera).concatena segunda = e.concatena (primera ++ segunda) := by
  simp [Escritor.concatena]

/-- The pieces of a segment are appended one by one, up to a NULL. By induction on the pieces. -/
theorem tx_piezas (faltan : List Pieza) (keys : List KeyValue) (e : Escritor)
    : (escritor atof).Ends .tx (e.en (.piezas faltan keys))
        ((joined faltan).map fun texto => (e.concatena texto).en (.clave keys)) := by
  induction faltan generalizing e with
  | nil =>
      have same : e.concatena [] = e := by simp [Escritor.concatena]
      rw [joined, Option.map_some, same]
      exact .single rfl
  | cons pieza faltan ih =>
      cases pieza with
      | none => exact .single rfl
      | some primera =>
          have later := ih (e.concatena primera)
          simp only [concatena_concatena] at later
          rw [joined, Option.map_map]
          exact .step rfl later

/-- One turn of the loop of `web_buffer_constructor`. -/
theorem tx_segmento (key : KeyValue) (keys : List KeyValue) (e : Escritor)
    : (escritor atof).Ends .tx (e.en (.clave (key :: keys)))
        ((segmento e.fuera e.nvs e.verificador e.ram key).toOption.map fun texto =>
          (e.concatena (texto ++ ['|'])).en (.clave keys)) := by
  have rest := tx_piezas atof
    (piezasTrasPuerto e.fuera e.nvs e.verificador e.ram key ++ [some ['|']]) keys
    ((e.concatena (sprintD key.num.toNat)).concatena [':'])
  have whole := junta_segmento e.fuera e.nvs e.verificador e.ram key
  rw [joined_append_last] at rest
  rw [junta, segmentoPiezas, joined, joined] at whole
  have reached : (escritor atof).Ends .tx (e.en (.clave (key :: keys)))
      (some (((e.concatena (sprintD key.num.toNat)).concatena [':']).en (.piezas
        (piezasTrasPuerto e.fuera e.nvs e.verificador e.ram key ++ [some ['|']]) keys))) :=
    .step rfl (.step rfl (.single rfl))
  refine reached.trans ?_
  rw [← whole]
  cases made : joined (piezasTrasPuerto e.fuera e.nvs e.verificador e.ram key) with
  | none =>
      rw [made] at rest
      exact rest
  | some texto =>
      rw [made] at rest
      simp only [Option.map_some, concatena_concatena] at rest
      simpa [Except.toOption, concatena_concatena] using rest

/-- The loop of `web_buffer_constructor`, by induction on the keys. -/
theorem tx_claves (keys : List KeyValue) (e : Escritor)
    : (escritor atof).Ends .tx (e.en (.clave keys))
        ((keys.foldlM (fun webBuffer key => do
            let texto ← segmento e.fuera e.nvs e.verificador e.ram key
            return webBuffer ++ texto ++ ['|']) e.webBuffer).toOption.map fun webBuffer =>
          { e with webBuffer := webBuffer }.en (.borra ordenBorrado)) := by
  induction keys generalizing e with
  | nil => exact .single rfl
  | cons key keys ih =>
      have first := tx_segmento atof key keys e
      rw [List.foldlM_cons]
      cases found : segmento e.fuera e.nvs e.verificador e.ram key with
      | error fault =>
          rw [found] at first
          exact first
      | ok texto =>
          rw [found] at first
          refine Machine.Ends.trans first ?_
          have later := ih (e.concatena (texto ++ ['|']))
          simpa [bind, Except.bind, pure, Except.pure, Escritor.concatena] using later

/-- The endpoints are emptied one by one, by induction on them. -/
theorem tx_borra (puntos : List PuntoWeb) (e : Escritor)
    : (escritor atof).Ends .tx (e.en (.borra puntos))
        (some ((e.conPuntos fun punto => if punto ∈ puntos then ['|'] else e.puntos punto).en
          .copia)) := by
  induction puntos generalizing e with
  | nil => exact .single rfl
  | cons primero puntos ih =>
      refine .step rfl ?_
      have later := ih (e.conPunto primero ['|'])
      have same : (fun punto => if punto ∈ puntos then ['|']
            else (e.conPunto primero ['|']).puntos punto)
          = fun punto => if punto ∈ primero :: puntos then ['|'] else e.puntos punto := by
        funext punto
        by_cases here : punto = primero
        · simp [here, Escritor.conPunto, Escritor.conPuntos]
        · simp [here, Escritor.conPunto, Escritor.conPuntos]
      rw [same] at later
      exact later

/-- The text of a token, as often as it is handed out to an endpoint. -/
def repetido (veces : Nat) (buffer : Str) : Str := (List.replicate veces (buffer ++ ['|'])).flatten

/-- A token is appended to its endpoints one after another, by induction on them. -/
theorem tx_anade (resto : List PuntoWeb) (buffer : Str) (tokens : List Str) (e : Escritor)
    : (escritor atof).Ends .tx (e.en (.anade resto buffer tokens))
        (some ((e.conPuntos fun punto =>
          e.puntos punto ++ repetido (resto.count punto) buffer).en (.token tokens))) := by
  induction resto generalizing e with
  | nil =>
      have same : (fun punto => e.puntos punto ++ repetido (List.count punto []) buffer)
          = e.puntos := by
        funext punto
        simp [repetido]
      rw [same]
      exact .single rfl
  | cons primero resto ih =>
      have later := ih ((e.conPunto primero (e.puntos primero ++ buffer)).conPunto primero
        ((e.conPunto primero (e.puntos primero ++ buffer)).puntos primero ++ ['|']))
      have same : (fun punto =>
            ((e.conPunto primero (e.puntos primero ++ buffer)).conPunto primero
              ((e.conPunto primero (e.puntos primero ++ buffer)).puntos primero ++ ['|'])).puntos
                punto
            ++ repetido (resto.count punto) buffer)
          = fun punto => e.puntos punto ++ repetido ((primero :: resto).count punto) buffer := by
        funext punto
        by_cases here : punto = primero
        · subst here
          simp [Escritor.conPunto, Escritor.conPuntos, repetido, List.replicate_succ]
        · have other : primero ≠ punto := fun same => here same.symm
          simp [Escritor.conPunto, Escritor.conPuntos, here, List.count_cons_of_ne other]
      rw [same] at later
      exact .step rfl (.step rfl later)

/-- A number is handed out to an endpoint once for each time that it is in its group. -/
theorem count_destinos (number : UInt8) (punto : PuntoWeb)
    : (destinos number).count punto
      = (punto.grupo.filter fun key => number = key.num).length := by
  cases punto <;> simp [destinos, ordenReparto, List.count_append, List.map_const', List.count_replicate]

/-- The comparison with a group appends the token as often as its number is found. -/
theorem foldl_grupo (number : UInt8) (buffer : Str) (grupo : List KeyValue) (anterior : Str)
    : grupo.foldl
        (fun anterior key => if number = key.num then anterior ++ buffer ++ ['|'] else anterior)
        anterior
      = anterior ++ repetido (grupo.filter fun key => number = key.num).length buffer := by
  induction grupo generalizing anterior with
  | nil => simp [repetido]
  | cons key grupo ih =>
      rw [List.foldl_cons, ih]
      by_cases found : number = key.num
      · simp [found, repetido, List.replicate_succ]
      · simp [found]

/-- The loop of `endpoint_discriminator`, by induction on the tokens. -/
theorem tx_tokens (tokens : List Str) (e : Escritor)
    : (escritor atof).Ends .tx (e.en (.token tokens))
        ((tokens.foldlM reparte e.puntos).toOption.map fun puntos =>
          (e.conPuntos puntos).en .espera) := by
  induction tokens generalizing e with
  | nil => exact .single rfl
  | cons buffer tokens ih =>
      rw [List.foldlM_cons, reparte]
      cases cut : (strtok [':'] (some buffer)).1 with
      | none =>
          refine .single ?_
          change (strtok [':'] (some buffer)).1.map _ = _
          rw [cut]
          rfl
      | some texto =>
          have taken : (escritor atof).step (e.en (.token (buffer :: tokens))) .tx
              = some (e.en (.anade (destinos (atoi texto).toUInt32.toUInt8) buffer tokens)) := by
            change (strtok [':'] (some buffer)).1.map _ = _
            rw [cut]
            rfl
          have handed := tx_anade atof (destinos (atoi texto).toUInt32.toUInt8) buffer tokens e
          have later := ih (e.conPuntos fun punto => e.puntos punto
            ++ repetido ((destinos (atoi texto).toUInt32.toUInt8).count punto) buffer)
          simp only [count_destinos] at handed later
          simp only [foldl_grupo]
          exact .step taken (handed.trans later)

/-- Both functions, one behind the other. -/
def publica (e : Escritor) : Except Fault (Str × (PuntoWeb → Str)) := do
  let webBuffer ← webBufferConstructor e.fuera e.nvs e.keysWithPorts e.verificador e.ram
  let puntos ← endpointDiscriminator webBuffer
  return (webBuffer, puntos)

/-- The statements of both functions, from the first one to the last. -/
theorem tx_publica (e : Escritor)
    : (escritor atof).Ends .tx (e.en .abre)
        ((publica e).toOption.map fun textos =>
          ({ e with webBuffer := textos.1 }.conPuntos textos.2).en .espera) := by
  have rendered := tx_claves atof e.keysWithPorts { e with webBuffer := ['|'] }
  refine .step rfl ?_
  rw [publica, webBufferConstructor]
  cases built : e.keysWithPorts.foldlM (fun webBuffer key => do
      let texto ← segmento e.fuera e.nvs e.verificador e.ram key
      return webBuffer ++ texto ++ ['|']) ['|'] with
  | error fault =>
      simp only [built] at rendered
      exact rendered
  | ok webBuffer =>
      simp only [built] at rendered
      let marco : Escritor := { e with webBuffer := webBuffer }
      let vacio : Escritor := marco.conPuntos fun _ => ['|']
      have emptied : (escritor atof).Ends .tx (marco.en (.borra ordenBorrado)) (some (vacio.en .copia)) := by
        have each := tx_borra atof ordenBorrado marco
        have all : (fun punto => if punto ∈ ordenBorrado then ['|'] else marco.puntos punto)
            = fun _ => ['|'] := by
          funext punto
          cases punto <;> rfl
        rwa [all] at each
      have handed := tx_tokens atof (splitSensors webBuffer ['|']).1 vacio
      refine Machine.Ends.trans rendered (emptied.trans (.step rfl ?_))
      cases shared : endpointDiscriminator webBuffer with
      | error fault =>
          have same : (splitSensors webBuffer ['|']).1.foldlM reparte vacio.puntos
              = .error fault :=
            shared
          rw [same] at handed
          simp only [bind, Except.bind, shared]
          exact handed
      | ok puntos =>
          have same : (splitSensors webBuffer ['|']).1.foldlM reparte vacio.puntos
              = .ok puntos :=
            shared
          rw [same] at handed
          simp only [bind, Except.bind, shared]
          exact handed

end Alone

/-- A turn of the functional model is its waits, and both functions if a module answered. -/
theorem ciclo_publica (atof : Str → UInt32) (e : Escritor) (v : Vuelta) (same : v.nvs = e.nvs)
    : ciclo atof e.txTask v
      = (esperas atof e.txTask v).bind fun atendida =>
          if atendida.1.reconstruye then
            (publica { e with
                ram := atendida.2
                verificador := atendida.1
                fuera := v.fuera }).map
              fun textos => (⟨atendida.2, e.keysWithPorts, textos.1, textos.2⟩, true)
          else .ok (⟨atendida.2, e.keysWithPorts, e.webBuffer, e.puntos⟩, false) := by
  have ram : e.txTask.ram = e.ram := rfl
  have keys : e.txTask.keysWithPorts = e.keysWithPorts := rfl
  simp only [ciclo, esperas, publica, ram, keys, bind, Except.bind, pure, Except.pure]
  cases recibir atof v.temperatura (waitBits e.ram) with
  | error fault => rfl
  | ok primera =>
      dsimp only
      cases recibir atof v.digitalInput (waitBits primera.2) with
      | error fault => rfl
      | ok segunda =>
          dsimp only
          cases recibir atof v.analogico segunda.2 with
          | error fault => rfl
          | ok tercera =>
              dsimp only
              rw [same]
              split
              · cases webBufferConstructor v.fuera e.nvs e.keysWithPorts
                  (verificadorDe v primera.1 segunda.1 tercera.1) tercera.2 with
                | error fault => rfl
                | ok webBuffer =>
                    dsimp only
                    cases endpointDiscriminator webBuffer <;> rfl
              · rfl

/-- The functional model on the turns of the task so far. -/
def modelo (atof : Str → UInt32) (e : Escritor) (entrada : Entrada) (_ : Escritor)
    (t : Option TxTask)
    : Option TxTask :=
  match entrada, e.control with
  | .esperas temperatura digitalInput analogico fuera, .espera =>
    t.bind fun t => (uartTxTask atof).step t ⟨temperatura, digitalInput, analogico, e.nvs, fuera⟩
  | _, _ => t

/-- Nobody writes to the storage between the first and the last statement of a turn. -/
def NvsQuieta (e : Escritor) : Entrada → Prop
  | .nvs _ => e.control = .espera
  | _ => True

/-- The task is where the model is, or on its way to it. -/
def HaciaModelo (atof : Str → UInt32) (e : Escritor) (t : Option TxTask) : Prop :=
  (e.control = .espera ∧ t = some e.txTask)
  ∨ e.control ≠ .espera ∧ ∃ final, (escritor atof).Ends .tx e final ∧ final.map Escritor.txTask = t
      ∧ ∀ e', final = some e' → e'.control = .espera

theorem tx_espera {e : Escritor} (espera : e.control = .espera) : e.tx = some e := by
  rw [Escritor.tx, espera]

/-- Between two statements of a turn there is no wait. -/
theorem esperas_ocupada {e : Escritor} (busy : e.control ≠ .espera)
    (temperatura digitalInput analogico : Option (List Char)) (fuera : Int32)
    (atof : Str → UInt32) (siguiente : Escritor) (t : Option TxTask)
    : e.paso atof (.esperas temperatura digitalInput analogico fuera) = some e
      ∧ modelo atof e (.esperas temperatura digitalInput analogico fuera) siguiente t = t := by
  cases here : e.control with
  | espera => exact absurd here busy
  | _ => simp only [Escritor.paso, modelo, here, and_self]

/-- The waits of a turn lead to where the model is behind the turn, or on the way to it. -/
theorem haciaModelo_esperas {atof : Str → UInt32} {e e' : Escritor} (espera : e.control = .espera)
    {temperatura digitalInput analogico : Option (List Char)} {fuera : Int32}
    (taken : e.paso atof (.esperas temperatura digitalInput analogico fuera) = some e')
    : HaciaModelo atof e'
        ((uartTxTask atof).step e.txTask ⟨temperatura, digitalInput, analogico, e.nvs, fuera⟩) := by
  simp only [Escritor.paso, espera] at taken
  have model := ciclo_publica atof e ⟨temperatura, digitalInput, analogico, e.nvs, fuera⟩ rfl
  cases waited : esperas atof e.txTask ⟨temperatura, digitalInput, analogico, e.nvs, fuera⟩ with
  | error fault =>
      rw [waited] at taken
      cases taken
  | ok atendida =>
      rw [waited] at taken model
      obtain rfl := Option.some.inj taken
      simp only [Except.bind] at model
      simp only [uartTxTask, model]
      by_cases asked : atendida.1.reconstruye
      · rw [if_pos asked, if_pos asked]
        refine Or.inr ⟨Control.noConfusion, _, tx_publica atof { e with
          ram := atendida.2
          verificador := atendida.1
          fuera := fuera }, ?_, ?_⟩
        · cases publica { e with ram := atendida.2, verificador := atendida.1, fuera := fuera } <;> rfl
        · intro last same
          obtain ⟨textos, -, rfl⟩ := Option.map_eq_some_iff.mp same
          rfl
      · rw [if_neg asked, if_neg asked]
        exact Or.inl ⟨rfl, rfl⟩

/-- A statement leads nearer to where the model is. -/
theorem haciaModelo_tx {atof : Str → UInt32} {e e' : Escritor} {t : Option TxTask}
    (hacia : HaciaModelo atof e t) (taken : e.tx = some e')
    : HaciaModelo atof e' t := by
  rcases hacia with ⟨espera, same⟩ | ⟨busy, final, ends, same, arrived⟩
  · rw [tx_espera espera] at taken
    obtain rfl := Option.some.inj taken
    exact Or.inl ⟨espera, same⟩
  · have later := ends.next (fun here => busy (arrived e here)) taken
    by_cases espera : e'.control = .espera
    · obtain rfl := later.eq_of_fixed (tx_espera espera)
      exact Or.inl ⟨espera, same.symm⟩
    · exact Or.inr ⟨espera, final, later, same, arrived⟩

/-- Whatever is read in between, as long as nobody writes to the storage while the two functions
run, the task has done the turns of the functional model whenever it is outside of them. Witness:
each statement is a step on the way that `tx_publica` describes.
-/
theorem escritor_refina (atof : Str → UInt32) (nvs : Almacen) (keys : List KeyValue)
    {entradas : List Entrada} {e : Escritor}
    (quieta : (escritor atof).Along NvsQuieta (Escritor.inicial nvs keys) entradas)
    (run : (escritor atof).run (Escritor.inicial nvs keys) entradas = some e)
    (espera : e.control = .espera)
    : (escritor atof).account (modelo atof) (Escritor.inicial nvs keys)
        (some (TxTask.inicial keys)) entradas
      = some e.txTask := by
  have preserved (s : Escritor) (t : Option TxTask) (entrada : Entrada) (next : Escritor)
      (guard : NvsQuieta s entrada) (hacia : HaciaModelo atof s t)
      (taken : (escritor atof).step s entrada = some next)
      : HaciaModelo atof next (modelo atof s entrada next t) := by
    cases entrada with
    | esperas temperatura digitalInput analogico fuera =>
        rcases hacia with ⟨espera, rfl⟩ | ⟨busy, rest⟩
        · simp only [modelo, espera]
          exact haciaModelo_esperas espera taken
        · obtain ⟨still, kept⟩ :=
            esperas_ocupada busy temperatura digitalInput analogico fuera atof next t
          rw [kept, ← Option.some.inj (still.symm.trans taken)]
          exact Or.inr ⟨busy, rest⟩
    | tx => exact haciaModelo_tx hacia taken
    | nvs otra =>
        obtain rfl := Option.some.inj taken
        rcases hacia with ⟨espera, same⟩ | ⟨busy, -⟩
        · exact Or.inl ⟨espera, same⟩
        · exact absurd guard busy
  have last := Machine.invariant_account_of_guard preserved quieta (Or.inl ⟨rfl, rfl⟩) run
  rcases last with ⟨-, same⟩ | ⟨busy, -⟩
  · exact same
  · exact absurd espera busy

/-- The waits of a turn in which the temperatures are answered. -/
def temperaturaAtendida : Entrada := .esperas (some "p0-0d21m1".toList) none none 0

/-- A turn among whose statements nobody writes, and a write behind it. -/
theorem escritor_refina_vuelta
    : ∃ e, (escritor fun _ => 0).run (Escritor.inicial conTanque [.temptrans])
          (temperaturaAtendida :: List.replicate 30 .tx ++ [.nvs .empty])
        = some e
      ∧ (escritor fun _ => 0).account (modelo fun _ => 0)
          (Escritor.inicial conTanque [.temptrans]) (some (TxTask.inicial [.temptrans]))
          (temperaturaAtendida :: List.replicate 30 .tx ++ [.nvs .empty])
        = some e.txTask := by
  have reached : ((escritor fun _ => 0).run (Escritor.inicial conTanque [.temptrans])
      (temperaturaAtendida :: List.replicate 30 .tx)).map (·.control) = some .espera := by
    decide +kernel
  obtain ⟨middle, run, espera⟩ := Option.map_eq_some_iff.mp reached
  have whole : (escritor fun _ => 0).run (Escritor.inicial conTanque [.temptrans])
      (temperaturaAtendida :: List.replicate 30 .tx ++ [.nvs .empty])
      = some { middle with nvs := .empty } := by
    rw [Machine.run_append, run]
    rfl
  refine ⟨_, whole, escritor_refina (fun _ => 0) conTanque [.temptrans] ?_ whole espera⟩
  refine Machine.along_iff.mpr fun before entrada after same visited arrived => ?_
  cases entrada with
  | nvs nvs =>
      have last : after = [] ∧ before = temperaturaAtendida :: List.replicate 30 .tx := by
        rcases List.eq_nil_or_concat after with rfl | ⟨resto, ultima, rfl⟩
        · exact ⟨rfl, (List.append_inj' same.symm rfl).1⟩
        · rw [List.concat_eq_append, ← List.cons_append, ← List.append_assoc] at same
          have earlier := (List.append_inj' same rfl).1
          have member : Entrada.nvs nvs ∈ temperaturaAtendida :: List.replicate 30 .tx := by
            rw [earlier]
            exact List.mem_append_right _ List.mem_cons_self
          simp [temperaturaAtendida] at member
      rw [last.2, run] at arrived
      exact Option.some.inj arrived ▸ espera
  | _ => trivial

end EspHttpControl.Serial
