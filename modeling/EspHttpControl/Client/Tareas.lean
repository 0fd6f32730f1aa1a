import EspHttpControl.Client.Login
import EspHttpControl.Serial.Lectores

/-! The three tasks that post frames.
`http_client_task`, `panic_button_task` and `alarm_button_task` share `estado`, the texts of
`UART_tx_task` and the storage. Their statements on these come in any order; what a response says
is left open. The tasks are seen from the loop of `UART_tx_task` on, behind the first copy to the web
buffer, and the texts are taken to fit their buffers. The answers to the frames only reach the event
log and are left out.
-/

namespace EspHttpControl.Client

open CText Nvs Machines

def panicdata : Str := "|121:1|".toList

/-- `trama_panic` -/
def tramaPanic (gnss : Str) : Http.Doc := [
  ("user", "9LjcSDc+bgWwy4eKVJTVNlNxu/5ZtMom6/mOhx8nLg68pMxoZA3diJ6m04zeITzz".toList),
  ("type", "IAM_B".toList), ("trama", panicdata ++ gnss)
]

/-- `trama_alarma` -/
def tramaAlarma : Http.Doc := [
  ("user", "9LjcSDc+bgWwy4eKVJTVNlNxu/5ZtMom6/mOhx8nLg68pMxoZA3diJ6m04zeITzz".toList),
  ("type", "IAM_A".toList), ("trama", "Esto es una alarma".toList)
]

/-- The tasks that call `httptrama`. -/
inductive Tarea
  | http | panico | alarma
deriving DecidableEq, Repr

/-- The text of a frame, by the type that the task passes to `httptrama`. -/
def Tarea.postData (e : Serial.Escritor) : Tarea → Http.Doc
  | .http => tramaSensors e.webBuffer
  | .panico => tramaPanic (e.puntos .gnss)
  | .alarma => tramaAlarma

/-- Where a task is between two statements. -/
inductive Sitio
  /-- `http_client_task` before its next response, a button task before its next press. -/
  | fuera
  /-- The login was granted and its token is stored. -/
  | concede
  /-- At the test of `estado`, one second later. -/
  | prueba
  /-- At the call of `httptrama`. -/
  | entra
  | compone (url : Str)
  /-- The frame is composed, and its header comes next. -/
  | lee (url : Str) (postData : Http.Doc)
  | envia (envio : Envio)
  | registra
deriving DecidableEq

structure Tareas where
  escritor : Serial.Escritor
  estado : Nat
  sitio : Tarea → Sitio
  /-- The frames that were posted, each with its task. -/
  enviados : List (Tarea × Envio)

inductive Paso
  /-- A step of `UART_tx_task`, or a write to the storage by the server. -/
  | escritor (entrada : Serial.Entrada)
  /-- `http_client_task` has parsed its response. -/
  | juicio (dicho : Veredicto)
  /-- A button task finds its pin low. -/
  | pulsa (tarea : Tarea)
  /-- The next statement of a task. -/
  | sigue (tarea : Tarea)

namespace Tareas

/-- The tasks when they begin. -/
def inicial (nvs : Almacen) (keys : List KeyValue) : Tareas :=
  {
    escritor := .inicial nvs keys
    estado := 0
    sitio := fun _ => .fuera
    enviados := []
  }

/-- `leer_nvs`, which returns NULL for an entry that is missing. -/
def leerNvs (s : Tareas) (registro : String) : Option Str := s.escritor.nvs.get registro

def en (s : Tareas) (tarea : Tarea) (sitio : Sitio) : Tareas :=
  { s with sitio := Function.update s.sitio tarea sitio }

def conNvs (s : Tareas) (nvs : Almacen) : Tareas :=
  { s with escritor := { s.escritor with nvs := nvs } }

def conEstado (s : Tareas) (estado : Nat) : Tareas := { s with estado := estado }

/-- The checks of `http_rest_with_url` on its response. -/
def juicio (s : Tareas) (dicho : Veredicto) : Tareas :=
  if s.sitio .http = .fuera then
    match dicho with
    | .exito token =>
      (s.conNvs (grabarNvs s.escritor.nvs "4_TOKEN-TRAMA" token)).en .http .concede
    | .rechazo => (s.conEstado 0).en .http .prueba
  else s

/-- `gpio_get_level` of a button task, while it is not in `httptrama`. -/
def pulsa (s : Tareas) (tarea : Tarea) : Tareas :=
  if tarea ≠ .http ∧ s.sitio tarea = .fuera then s.en tarea .entra else s

/-- The next statement of `http_rest_with_url` behind its checks, or of `httptrama`. A NULL address
or timeout stops the card.
-/
def sigue (s : Tareas) (tarea : Tarea) : Option Tareas :=
  match s.sitio tarea with
  | .fuera => some s
  | .concede => some ((s.conEstado 1).en tarea .prueba)
  | .prueba => some (s.en tarea (if s.estado = 1 then .entra else .fuera))
  | .entra => do
    let url ← s.leerNvs "4_URL-TRAMA"
    let _ ← s.leerNvs "4_TIMEOUT-HTTP"
    some ((s.conEstado 0).en tarea (.compone url))
  | .compone url => some (s.en tarea (.lee url (tarea.postData s.escritor)))
  | .lee url postData =>
    some (s.en tarea (.envia ⟨url, s.leerNvs "4_TOKEN-TRAMA", postData⟩))
  | .envia envio =>
    some { s.en tarea .registra with enviados := s.enviados ++ [(tarea, envio)] }
  | .registra => some (s.en tarea .fuera)

theorem sigue_entra {s : Tareas} {tarea : Tarea} (here : s.sitio tarea = .entra) {url : Str}
    (address : s.leerNvs "4_URL-TRAMA" = some url) (timeout : s.leerNvs "4_TIMEOUT-HTTP" ≠ none)
    : s.sigue tarea = some ((s.conEstado 0).en tarea (.compone url)) := by
  obtain ⟨limit, read⟩ := Option.ne_none_iff_exists'.mp timeout
  rw [sigue, here]
  dsimp only
  rw [address, read]
  rfl

/-- What the next statement of a task does, by where the task is. -/
inductive Sigue (s : Tareas) (tarea : Tarea) : Tareas → Prop
  | fuera (here : s.sitio tarea = .fuera) : Sigue s tarea s
  | concede (here : s.sitio tarea = .concede) : Sigue s tarea ((s.conEstado 1).en tarea .prueba)
  | prueba (here : s.sitio tarea = .prueba)
    : Sigue s tarea (s.en tarea (if s.estado = 1 then .entra else .fuera))
  | entra {url : Str} (here : s.sitio tarea = .entra)
    : Sigue s tarea ((s.conEstado 0).en tarea (.compone url))
  | compone {url : Str} (here : s.sitio tarea = .compone url)
    : Sigue s tarea (s.en tarea (.lee url (tarea.postData s.escritor)))
  | lee {url : Str} {postData : Http.Doc} (here : s.sitio tarea = .lee url postData)
    : Sigue s tarea (s.en tarea (.envia ⟨url, s.leerNvs "4_TOKEN-TRAMA", postData⟩))
  | envia {envio : Envio} (here : s.sitio tarea = .envia envio)
    : Sigue s tarea { s.en tarea .registra with enviados := s.enviados ++ [(tarea, envio)] }
  | registra (here : s.sitio tarea = .registra) : Sigue s tarea (s.en tarea .fuera)

theorem sigue_cases {s s' : Tareas} {tarea : Tarea} (taken : s.sigue tarea = some s')
    : Sigue s tarea s' := by
  rw [sigue] at taken
  split at taken
  all_goals rename_i here
  case h_4 =>
    obtain ⟨url, -, later⟩ := Option.bind_eq_some_iff.mp taken
    obtain ⟨timeout, -, moved⟩ := Option.bind_eq_some_iff.mp later
    exact Option.some.inj moved ▸ .entra here
  all_goals rw [← Option.some.inj taken]
  · exact .fuera here
  · exact .concede here
  · exact .prueba here
  · exact .compone here
  · exact .lee here
  · exact .envia here
  · exact .registra here

def paso (atof : Str → UInt32) (s : Tareas) : Paso → Option Tareas
  | .escritor entrada =>
    (s.escritor.paso atof entrada).map fun escritor => { s with escritor := escritor }
  | .juicio dicho => some (s.juicio dicho)
  | .pulsa tarea => some (s.pulsa tarea)
  | .sigue tarea => s.sigue tarea

end Tareas

/-- The tasks over everything that they do. -/
def tareas (atof : Str → UInt32) : Machine Tareas Paso where
  step := Tareas.paso atof

-----------------------------------------------------------------------------------------
-- The client alone
-----------------------------------------------------------------------------------------

/-- The functional client and the tasks are in the same state. -/
structure Tareas.Como (s : Tareas) (c : Cliente) : Prop where
  nvs : s.escritor.nvs = c.nvs
  estado : s.estado = c.estado
  enviados : s.enviados.map Prod.snd = c.tramas
  fuera : s.sitio .http = .fuera

/-- The client that is not disturbed does what `http_rest_with_url` does, by what its response
says.
-/
theorem tareas_httpRestWithUrl (atof : Str → UInt32) {parse : Str → Option Json} {c final : Cliente}
    {v : Vuelta} (reset : c.outputLen = 0) (ended : httpRestWithUrl parse c v = some final)
    {s : Tareas} (como : s.Como c) (same : s.escritor.webBuffer = v.webBuffer)
    : ∃ dicho s', juicio parse c v.login = some dicho
        ∧ (tareas atof).Ends (.sigue .http) (s.juicio dicho) (some s')
        ∧ s'.Como final := by
  obtain ⟨nvs, estado, enviados, fuera⟩ := como
  obtain ⟨-, -, dicho, judged, ended⟩ := (httpRestWithUrl_iff reset).mp ended
  refine ⟨dicho, ?_⟩
  cases dicho with
  | rechazo =>
      subst ended
      simp only [Tareas.juicio, if_pos fuera]
      exact ⟨_, judged, .step rfl (.refl _), nvs, rfl, enviados, rfl⟩
  | exito token =>
      have len : (c.tras v.login (.exito token)).outputLen = 0 := reset
      obtain ⟨url, address, timeout, -, rfl⟩ := (httptrama_iff len).mp ended
      have read (registro : String)
          : (c.tras v.login (.exito token)).leerNvs registro
            = (grabarNvs s.escritor.nvs "4_TOKEN-TRAMA" token).get registro := by
        rw [nvs]
        rfl
      rw [read] at address timeout
      let entra : Tareas :=
        ((((s.conNvs (grabarNvs s.escritor.nvs "4_TOKEN-TRAMA" token)).en .http .concede).conEstado
          1).en .http .prueba).en .http .entra
      have entered : (tareas atof).step entra (.sigue .http)
          = some ((entra.conEstado 0).en .http (.compone url)) :=
        @Tareas.sigue_entra entra .http rfl url address timeout
      simp only [Tareas.juicio, if_pos fuera]
      refine ⟨_, judged,
        .step rfl (.step rfl (.step entered
          (.step rfl (.step rfl (.step rfl (.step rfl (.refl _))))))),
        ?_, rfl, ?_, rfl⟩
      · exact congrArg (grabarNvs · "4_TOKEN-TRAMA" token) nvs
      · rw [read, ← same]
        exact List.map_append.trans (congrArg (· ++ _) enviados)

/-- A card that stores the entries of its requests logs in and posts the lone bar. -/
theorem tareas_httpRestWithUrl_concedida
    : ∃ final, httpRestWithUrl (JsonText.parse atoi) (Cliente.arranque conEntradas)
          ⟨.entrega false [concedida], .falla, ['|']⟩
        = some final
      ∧ ∃ dicho s', juicio (JsonText.parse atoi) (Cliente.arranque conEntradas)
            (.entrega false [concedida])
          = some dicho
        ∧ (tareas fun _ => 0).Ends (.sigue .http)
          ((Tareas.inicial conEntradas []).juicio dicho) (some s')
        ∧ s'.Como final := by
  have start : Atento (JsonText.parse atoi) none (Cliente.arranque conEntradas) :=
    atento_arranque guardados_conEntradas
  have granted : Entera (JsonText.parse atoi) _ (.entrega false [concedida]) :=
    ⟨by decide +kernel, inteligible_concedida⟩
  obtain ⟨-, final, -, ended, -⟩ :=
    (start.entera (v := ⟨.entrega false [concedida], .falla, ['|']⟩) granted fun _ => by decide).1
  exact ⟨final, ended, tareas_httpRestWithUrl (fun _ => 0) rfl ended ⟨rfl, rfl, rfl, rfl⟩ rfl⟩

-----------------------------------------------------------------------------------------
-- The frames
-----------------------------------------------------------------------------------------

/-- What can be read in a frame that a task posts: whole segments of the first keys and what was
written of the next one; behind the panic mark the last position, or none; the alarm.
-/
def Legible (keys : List KeyValue) (postData : Http.Doc) : Tarea → Prop
  | .http => ∃ webBuffer c hechas resto, postData = tramaSensors webBuffer
    ∧ Serial.Cuadro.Leido c keys webBuffer hechas resto
  | .panico => ∃ gnss posicion, postData = tramaPanic gnss
    ∧ fields ['|'] (panicdata ++ gnss) = "121:1".toList :: Option.toList posicion
    ∧ ∀ texto ∈ posicion, ∃ fuera nvs verificador ram,
      Serial.segmento fuera nvs verificador ram .gnssGga = .ok texto
  | .alarma => postData = tramaAlarma

/-- The data of a frame that is composed and not posted yet. -/
def Sitio.compuesto : Sitio → Option Http.Doc
  | .lee _ postData => some postData
  | .envia envio => some envio.postData
  | _ => none

/-- What is known of the tasks at every moment. -/
structure Tareas.Sanas (keys : List KeyValue) (s : Tareas) : Prop where
  textos : ∃ c, Serial.Coherente keys s.escritor c
  compuestos : ∀ tarea, ∀ postData ∈ (s.sitio tarea).compuesto, Legible keys postData tarea
  enviados : ∀ enviado ∈ s.enviados, Legible keys enviado.2.postData enviado.1

section Frames

variable {keys : List KeyValue} {s : Tareas}

/-- An endpoint with one key shows one segment at most, by induction on the keys. -/
theorem partes_gnss (sinRepetir : keys.Nodup) {segmentos : List Str}
    (pairs : List.Forall₂ (fun key texto => ∃ fuera nvs verificador ram,
      Serial.segmento fuera nvs verificador ram key = .ok texto) keys segmentos)
    : ∃ posicion, Serial.PuntoWeb.gnss.partes keys segmentos = Option.toList posicion
        ∧ ∀ texto ∈ posicion, ∃ fuera nvs verificador ram,
          Serial.segmento fuera nvs verificador ram .gnssGga = .ok texto := by
  induction pairs with
  | nil => exact ⟨none, rfl, by simp⟩
  | @cons key texto keys segmentos made pairs ih =>
      obtain ⟨fresh, sinRepetir⟩ := List.nodup_cons.mp sinRepetir
      by_cases own : key = .gnssGga
      · subst own
        have none : Serial.PuntoWeb.gnss.partes keys segmentos = [] := by
          refine List.map_eq_nil_iff.mpr (List.filter_eq_nil_iff.mpr ?_)
          rintro ⟨otra, _⟩ member inGroup
          have same : otra = KeyValue.gnssGga := by
            simpa [Serial.PuntoWeb.grupo] using inGroup
          exact fresh (same ▸ (List.of_mem_zip member).1)
        refine ⟨some texto, ?_, ?_⟩
        · simpa [Serial.PuntoWeb.partes, Serial.PuntoWeb.grupo] using none
        · rintro otro ⟨⟩
          exact made
      · obtain ⟨posicion, same, each⟩ := ih sinRepetir
        refine ⟨posicion, ?_, each⟩
        rw [← same]
        simp [Serial.PuntoWeb.partes, Serial.PuntoWeb.grupo, own]

/-- The position that a reader finds in its endpoint is one segment, or none. -/
theorem mostrado_gnss (sinRepetir : keys.Nodup) {e : Serial.Escritor}
    (mostrado : Serial.Mostrado keys e .gnss)
    : ∃ posicion, fields ['|'] (e.puntos .gnss) = Option.toList posicion
        ∧ ∀ texto ∈ posicion, ∃ fuera nvs verificador ram,
          Serial.segmento fuera nvs verificador ram .gnssGga = .ok texto := by
  have cut {webBuffer : Str} (marco : Serial.Marco keys webBuffer) (n : Nat)
      : ∃ posicion,
          Serial.PuntoWeb.gnss.partes (keys.take n) ((fields ['|'] webBuffer).take n)
            = Option.toList posicion
          ∧ ∀ texto ∈ posicion, ∃ fuera nvs verificador ram,
            Serial.segmento fuera nvs verificador ram .gnssGga = .ok texto := by
    rcases marco with empty | ⟨fuera, verificador, ram, pairs⟩
    · refine ⟨none, ?_, by simp⟩
      rw [empty, List.take_nil, Serial.PuntoWeb.partes, List.zip_nil_right]
      rfl
    · refine partes_gnss (sinRepetir.sublist (List.take_sublist n keys))
        (List.forall₂_take n (pairs.imp ?_))
      rintro key texto ⟨nvs, made⟩
      exact ⟨fuera, nvs, verificador, ram, made⟩
  rcases mostrado with ⟨webBuffer, marco, shown⟩ | ⟨-, marco, n, shown⟩
  · have whole := cut marco (max keys.length (fields ['|'] webBuffer).length)
    rw [List.take_of_length_le (Nat.le_max_left ..), List.take_of_length_le (Nat.le_max_right ..)]
      at whole
    rw [shown]
    exact whole
  · rw [Serial.Repartido] at shown
    rw [shown]
    exact cut marco n

/-- The panic mark is a segment of its own. -/
theorem fields_panic (gnss : Str)
    : fields ['|'] (panicdata ++ gnss) = "121:1".toList :: fields ['|'] gnss := by
  have one : fields ['|'] (["121:1".toList].flatMap (· ++ ['|']) ++ gnss)
      = ["121:1".toList] ++ fields ['|'] gnss :=
    fields_closed (by decide) (by decide) gnss
  have front : panicdata ++ gnss = '|' :: (["121:1".toList].flatMap (· ++ ['|']) ++ gnss) := rfl
  rw [front, fields_sep (by decide), one, List.singleton_append]

theorem legible_postData (sinRepetir : keys.Nodup) {e : Serial.Escritor} {c : Serial.Cuadro}
    (coherente : Serial.Coherente keys e c) (tarea : Tarea)
    : Legible keys (tarea.postData e) tarea := by
  cases tarea with
  | http =>
      obtain ⟨hechas, resto, leido, -⟩ := Serial.coherente_webBuffer coherente
      exact ⟨e.webBuffer, c, hechas, resto, rfl, leido⟩
  | panico =>
      obtain ⟨posicion, shown, each⟩ :=
        mostrado_gnss sinRepetir (Serial.coherente_puntos coherente .gnss)
      exact ⟨e.puntos .gnss, posicion, rfl, by rw [fields_panic, shown], each⟩
  | alarma => rfl

/-- A task that comes to another place with a frame that is readable, if it has composed one. -/
theorem sanas_en (sanas : s.Sanas keys) (tarea : Tarea) {sitio : Sitio}
    (compuesto : ∀ postData ∈ sitio.compuesto, Legible keys postData tarea)
    : (s.en tarea sitio).Sanas keys := by
  refine ⟨sanas.textos, fun otra postData here => ?_, sanas.enviados⟩
  by_cases same : otra = tarea
  · subst same
    have here : postData ∈ (Function.update s.sitio otra sitio otra).compuesto := here
    rw [Function.update_self] at here
    exact compuesto postData here
  · have here : postData ∈ (Function.update s.sitio tarea sitio otra).compuesto := here
    rw [Function.update_of_ne same] at here
    exact sanas.compuestos otra postData here

theorem sanas_conEstado (sanas : s.Sanas keys) (estado : Nat) : (s.conEstado estado).Sanas keys :=
  ⟨sanas.textos, sanas.compuestos, sanas.enviados⟩

theorem sanas_conNvs (sanas : s.Sanas keys) (nvs : Almacen) : (s.conNvs nvs).Sanas keys := by
  obtain ⟨c, coherente⟩ := sanas.textos
  exact ⟨⟨_, Serial.coherente_nvs coherente nvs s.escritor⟩, sanas.compuestos, sanas.enviados⟩

theorem sanas_juicio (sanas : s.Sanas keys) (dicho : Veredicto) : (s.juicio dicho).Sanas keys := by
  by_cases fuera : s.sitio .http = .fuera
  · cases dicho with
    | exito token =>
        simp only [Tareas.juicio, if_pos fuera]
        exact sanas_en (sanas_conNvs sanas _) .http nofun
    | rechazo =>
        simp only [Tareas.juicio, if_pos fuera]
        exact sanas_en (sanas_conEstado sanas 0) .http nofun
  · simpa only [Tareas.juicio, if_neg fuera] using sanas

theorem sanas_pulsa (sanas : s.Sanas keys) (tarea : Tarea) : (s.pulsa tarea).Sanas keys := by
  rw [Tareas.pulsa]
  split
  · exact sanas_en sanas tarea nofun
  · exact sanas

/-- The statements of the client and of `httptrama`, by where the task is. -/
theorem sanas_sigue (sinRepetir : keys.Nodup) (sanas : s.Sanas keys) {tarea : Tarea} {s' : Tareas}
    (taken : s.sigue tarea = some s')
    : s'.Sanas keys := by
  have moves := Tareas.sigue_cases taken
  cases moves with
  | fuera => exact sanas
  | concede => exact sanas_en (sanas_conEstado sanas 1) tarea nofun
  | prueba =>
      refine sanas_en sanas tarea ?_
      split <;> nofun
  | entra => exact sanas_en (sanas_conEstado sanas 0) tarea nofun
  | compone =>
      obtain ⟨c, coherente⟩ := sanas.textos
      refine sanas_en sanas tarea fun postData made => ?_
      obtain rfl := Option.some.inj made
      exact legible_postData sinRepetir coherente tarea
  | lee here =>
      refine sanas_en sanas tarea fun postData made => ?_
      exact sanas.compuestos tarea postData (by rw [here]; exact made)
  | @envia envio here =>
      have moved : (s.en tarea .registra).Sanas keys := sanas_en sanas tarea nofun
      refine ⟨moved.textos, moved.compuestos, fun enviado member => ?_⟩
      rcases List.mem_append.mp member with earlier | last
      · exact sanas.enviados enviado earlier
      · obtain rfl := List.mem_singleton.mp last
        exact sanas.compuestos tarea envio.postData (by rw [here]; rfl)
  | registra => exact sanas_en sanas tarea nofun

theorem sanas_paso {atof : Str → UInt32} (sinRepetir : keys.Nodup) {paso : Paso} {s' : Tareas}
    (sanas : s.Sanas keys) (taken : s.paso atof paso = some s')
    : s'.Sanas keys := by
  cases paso with
  | escritor entrada =>
      obtain ⟨escritor, written, rfl⟩ := Option.map_eq_some_iff.mp taken
      obtain ⟨c, coherente⟩ := sanas.textos
      exact ⟨⟨_, Serial.coherente_paso coherente written⟩, sanas.compuestos, sanas.enviados⟩
  | juicio dicho => exact Option.some.inj taken ▸ sanas_juicio sanas dicho
  | pulsa tarea => exact Option.some.inj taken ▸ sanas_pulsa sanas tarea
  | sigue tarea => exact sanas_sigue sinRepetir sanas taken

end Frames

/-- Whenever the buttons are pressed and however the tasks take turns, every posted frame is
readable. Witness: what is known of the texts at every moment, up to the frame that is composed
from them.
-/
theorem tramas_legibles (atof : Str → UInt32) (nvs : Almacen) {keys : List KeyValue}
    (sinRepetir : keys.Nodup) {pasos : List Paso} {s : Tareas}
    (run : (tareas atof).run (Tareas.inicial nvs keys) pasos = some s)
    : ∀ enviado ∈ s.enviados, Legible keys enviado.2.postData enviado.1 := by
  have start : (Tareas.inicial nvs keys).Sanas keys :=
    ⟨⟨_, Serial.coherente_inicial nvs keys⟩, fun _ _ made => absurd made nofun,
      fun _ member => absurd member List.not_mem_nil⟩
  have preserved (s : Tareas) (paso : Paso) (next : Tareas) (sanas : s.Sanas keys)
      (taken : (tareas atof).step s paso = some next)
      : next.Sanas keys :=
    sanas_paso sinRepetir sanas taken
  exact (Machine.invariant_run preserved start run).enviados

/-- A card with a tank that stores the entries of its requests. -/
def conTanqueEntradas : Almacen :=
  Serial.conTanque.writeAll (registrosCliente.map fun registro => (registro, "8000".toList))

/-- A frame that is posted while the segment of the tank is written. -/
theorem tramas_legibles_a_medias
    : ∃ s, (tareas fun _ => 0).run
          (Tareas.inicial conTanqueEntradas [.temptrans, .greywater])
          ((Serial.temperaturaAtendida :: List.replicate 13 .tx).map .escritor
            ++ .juicio (.exito ['t']) :: List.replicate 7 (.sigue .http))
        = some s
      ∧ s.enviados.map (·.2.postData) = [tramaSensors "|2:0:21|33:6".toList]
      ∧ ∀ enviado ∈ s.enviados,
        Legible [.temptrans, .greywater] enviado.2.postData enviado.1 := by
  have posted : ((tareas fun _ => 0).run
      (Tareas.inicial conTanqueEntradas [.temptrans, .greywater])
      ((Serial.temperaturaAtendida :: List.replicate 13 .tx).map .escritor
        ++ .juicio (.exito ['t']) :: List.replicate 7 (.sigue .http))).map
        (·.enviados.map (·.2.postData))
      = some [tramaSensors "|2:0:21|33:6".toList] := by
    decide +kernel
  obtain ⟨s, run, same⟩ := Option.map_eq_some_iff.mp posted
  exact ⟨s, run, same, tramas_legibles _ _ (by decide) run⟩

-----------------------------------------------------------------------------------------
-- The logins
-----------------------------------------------------------------------------------------

/-- What an observer notes of the logins. -/
structure Concesion where
  /-- The last response granted a login. -/
  concedida : Bool
  /-- A task has entered `httptrama` since the client set `estado`. -/
  interrumpida : Bool
  /-- The token that was granted last, or that was stored at the beginning. -/
  token : Option Str
  /-- The token that had been granted last when each of the tasks read it. -/
  leido : Tarea → Option Str
  /-- The same for every frame that was posted. -/
  anotados : List (Option Str)

namespace Concesion

def inicial (s : Tareas) : Concesion :=
  ⟨false, false, s.leerNvs "4_TOKEN-TRAMA", fun _ => none, []⟩

def conJuicio (g : Concesion) : Veredicto → Concesion
  | .exito token => { g with concedida := true, token := some token }
  | .rechazo => { g with concedida := false }

def nota (s : Tareas) (paso : Paso) (_ : Tareas) (g : Concesion) : Concesion :=
  match paso with
  | .escritor _ => g
  | .pulsa _ => g
  | .juicio dicho => if s.sitio .http = .fuera then g.conJuicio dicho else g
  | .sigue tarea =>
    match s.sitio tarea with
    | .concede => { g with interrumpida := false }
    | .entra => { g with interrumpida := true }
    | .lee _ _ => { g with leido := Function.update g.leido tarea g.token }
    | .envia _ => { g with anotados := g.anotados ++ [g.leido tarea] }
    | _ => g

/-- The account of a run from the beginning of the tasks. -/
def de (atof : Str → UInt32) (s : Tareas) (pasos : List Paso) : Concesion :=
  (tareas atof).account nota s (inicial s) pasos

end Concesion

section Logins

variable {s : Tareas} {g : Concesion}

end Logins

section Tokens

variable {s : Tareas} {g : Concesion}

end Tokens

end EspHttpControl.Client
