import EspHttpControl.Firmware.Credencial
import EspHttpControl.Serial.GpsPrevio
import EspHttpControl.Serial.PuntosWeb

/-! What a card shows of its sensors: the web frame on its server, the parts of it at the other
endpoints, and the frames that the client posts.
The keys are those that the boot of the tasks loads, the ports those in the storage at the turn that
builds the frame; requests store others in between. A turn is a single step, so that a request finds
the texts as they stand between two turns.
-/

namespace EspHttpControl.Firmware

open CText Nvs Machines Http

/-- Where what a card shows comes from: the storage that the boot of its tasks loaded, if they run,
the storage at the last turn since then that built a frame, and for each frame posted since then the
storage behind it.
-/
structure Fuentes where
  arranque : Option Almacen
  vuelta : Option Almacen
  enviadas : List (Option Almacen)

def Fuentes.ninguna : Fuentes := ⟨none, none, []⟩

/-- The keys that the boot loads. -/
def Fuentes.llaves (f : Fuentes) : List KeyValue :=
  f.arranque.elim [] fun nvs => KeyValue.all.filter (Registrada nvs ·)

/-- A turn of the serial task builds a frame. -/
def construye (x : Externo) (e : Esp32) (v : Serial.Vuelta) : Bool :=
  (Serial.ciclo x.atof e.txTask v).toOption.any Prod.snd

/-- The client sends a frame behind its login. -/
def publica (x : Externo) (e : Esp32) (login : Client.Intento) : Bool :=
  (Client.login x.parse { e.cliente with nvs := e.nvs } login).any (·.estado = 1)

/-- The notes of an event behind which the tasks run. -/
def Fuentes.tras (x : Externo) (e : Esp32) (f : Fuentes) : Evento → Fuentes
  | .appMain _ _ => if e.arrancado then f else ⟨some e.nvs, none, []⟩
  | .uart temperatura digitalInput analogico fuera =>
    if construye x e ⟨temperatura, digitalInput, analogico, e.nvs, fuera⟩ then
      { f with vuelta := some e.nvs }
    else f
  | .login login _ =>
    if publica x e login then { f with enviadas := f.enviadas ++ [f.vuelta] } else f
  | _ => f

/-- The notes of one event; a card without tasks shows nothing. -/
def Fuentes.anota (x : Externo) (e : Esp32) (evento : Evento) (e' : Esp32) (f : Fuentes)
    : Fuentes :=
  if e'.tareas then f.tras x e evento else .ninguna

/-- The text has one segment for each key, in order, at the port of the key in the storage; before
the first turn it is a lone bar.
-/
def Muestra (llaves : List KeyValue) (texto : Str) : Option Almacen → Prop
  | none => texto = ['|']
  | some nvs =>
    ∃ fuera verificador ram,
      List.Forall₂ (fun key segmento => Serial.segmento fuera nvs verificador ram key = .ok segmento)
        llaves (fields ['|'] texto)
      ∧ texto = '|' :: (fields ['|'] texto).flatMap (· ++ ['|'])

/-- The part of the web frame at an endpoint, which is empty before the first turn. -/
def Fuentes.parte (f : Fuentes) (texto : Str) (punto : Serial.PuntoWeb) : Str :=
  if f.vuelta.isNone then []
  else '|' :: (punto.partes f.llaves (fields ['|'] texto)).flatMap (· ++ ['|'])

/-- The card shows what comes from its sources. -/
structure Alineada (e : Esp32) (f : Fuentes) : Prop where
  llaves : e.txTask.keysWithPorts = f.llaves
  limpio : Serial.SinBarra e.txTask.ram
  tx : e.txTask.webBuffer = e.web.dev.webBuffer ∧ e.txTask.puntos = e.web.dev.puntos
  frame : Muestra f.llaves e.web.dev.webBuffer f.vuelta
  puntos : e.web.dev.puntos = f.parte e.web.dev.webBuffer
  tramas : List.Forall₂ (fun nvs envio =>
      ∃ texto, envio.postData = Client.tramaSensors texto ∧ Muestra f.llaves texto nvs)
    f.enviadas e.cliente.tramas
  largo : e.cliente.outputLen = 0
  parada : e.tareas = false → f = .ninguna
  apagada : e.arrancado = false → e.tareas = false

-----------------------------------------------------------------------------------------
-- A turn of the serial task
-----------------------------------------------------------------------------------------

/-- What a finished turn does with the texts: it keeps them, or it builds the frame and hands its
segments out.
-/
theorem ciclo_textos {atof : Str → UInt32} {t t' : Serial.TxTask} {v : Serial.Vuelta}
    {reconstruido : Bool} (done : Serial.ciclo atof t v = .ok (t', reconstruido))
    : t'.keysWithPorts = t.keysWithPorts
      ∧ (reconstruido = false → t'.webBuffer = t.webBuffer ∧ t'.puntos = t.puntos)
      ∧ (reconstruido = true → ∃ verificador,
        Serial.webBufferConstructor v.fuera v.nvs t.keysWithPorts verificador t'.ram
            = .ok t'.webBuffer
          ∧ Serial.endpointDiscriminator t'.webBuffer = .ok t'.puntos) := by
  rw [Serial.ciclo_esperas] at done
  obtain ⟨⟨verificador, ram⟩, -, done⟩ := Serial.ok_of_bind done
  dsimp only at done
  split at done
  · obtain ⟨webBuffer, built, done⟩ := Serial.ok_of_bind done
    obtain ⟨puntos, handed, done⟩ := Serial.ok_of_bind done
    obtain ⟨rfl, rfl⟩ := Prod.mk.inj (Except.ok.inj done)
    exact ⟨rfl, Bool.noConfusion, fun _ => ⟨verificador, built, handed⟩⟩
  · obtain ⟨rfl, rfl⟩ := Prod.mk.inj (Except.ok.inj done)
    exact ⟨rfl, fun _ => ⟨rfl, rfl⟩, Bool.noConfusion⟩

/-- A turn that builds a frame shows the storage that it found. -/
theorem muestra_ciclo {atof : Str → UInt32} {t t' : Serial.TxTask} {v : Serial.Vuelta}
    (limpio : Serial.SinBarra t.ram) (done : Serial.ciclo atof t v = .ok (t', true))
    : Muestra t.keysWithPorts t'.webBuffer (some v.nvs)
      ∧ t'.puntos = fun punto =>
        '|' :: (punto.partes t.keysWithPorts (fields ['|'] t'.webBuffer)).flatMap (· ++ ['|']) := by
  obtain ⟨verificador, built, handed⟩ := (ciclo_textos done).2.2 rfl
  obtain ⟨-, -, -, -, keeps, -⟩ := Serial.ciclo_cases done
  have pairs := Serial.fields_webBuffer (keeps limpio) built
  obtain ⟨segmentos, same, frame⟩ := Serial.webBufferConstructor_segmentos built
  have cut : fields ['|'] t'.webBuffer = segmentos :=
    List.right_unique_forall₂' (fun _ _ _ h h' => Except.ok.inj (h.symm.trans h')) pairs same
  refine ⟨⟨v.fuera, verificador, t'.ram, pairs, ?_⟩, ?_⟩
  · rw [cut]
    exact frame
  · exact Except.ok.inj (handed.symm.trans (Serial.endpointDiscriminator_segmentos pairs))

-----------------------------------------------------------------------------------------
-- The steps
-----------------------------------------------------------------------------------------

namespace Alineada

variable {x : Externo} {e e' : Esp32} {f f' : Fuentes}

/-- A card that boots shows nothing. -/
theorem reinicio (e : Esp32) : Alineada e.reinicio .ninguna where
  llaves := rfl
  limpio := by
    intro timestamp found
    cases found
  tx := ⟨rfl, rfl⟩
  frame := rfl
  puntos := rfl
  tramas := .nil
  largo := rfl
  parada _ := rfl
  apagada _ := rfl

/-- The notes are those of the event while the tasks run. -/
theorem anota {evento : Evento} (alineada : Alineada e' f')
    (noted : e'.tareas = true → f.tras x e evento = f')
    : Alineada e' (f.anota x e evento e') := by
  rw [Fuentes.anota]
  split
  · next on =>
    rw [noted on]
    exact alineada
  · next off =>
    rw [← alineada.parada (Bool.eq_false_iff.mpr off)]
    exact alineada

theorem anota_reinicio (evento : Evento) (otro : Esp32)
    : Alineada otro.reinicio (f.anota x e evento otro.reinicio) :=
  (reinicio otro).anota Bool.noConfusion

/-- The storage, the files and the token of the server do not matter. -/
theorem conWeb (alineada : Alineada e f) {web : Webserver}
    (webBuffer : web.dev.webBuffer = e.web.dev.webBuffer) (puntos : web.dev.puntos = e.web.dev.puntos)
    : Alineada { e with web := web } f where
  llaves := alineada.llaves
  limpio := alineada.limpio
  tx := ⟨alineada.tx.1.trans webBuffer.symm, alineada.tx.2.trans puntos.symm⟩
  frame := webBuffer ▸ alineada.frame
  puntos := puntos.trans (webBuffer ▸ alineada.puntos)
  tramas := alineada.tramas
  largo := alineada.largo
  parada := alineada.parada
  apagada := alineada.apagada

theorem suceso (alineada : Alineada e f) (suceso : Suceso)
    : Alineada (e.suceso suceso) f ∧ (e.suceso suceso).tareas = e.tareas
      ∨ ∃ otro : Esp32, e.suceso suceso = otro.reinicio := by
  rcases e.suceso_cases suceso with ⟨web, taken, same⟩ | same
  · obtain ⟨token, dev⟩ := paso_dev taken
    rw [same]
    exact Or.inl ⟨alineada.conWeb (by rw [dev]) (by rw [dev]), rfl⟩
  · exact Or.inr ⟨e, same⟩

theorem atiende (alineada : Alineada e f) (p : Peticion)
    : Alineada (e.atiende x p) f ∨ ∃ otro : Esp32, e.atiende x p = otro.reinicio := by
  have kept : (servir x.parse e.web.dev p).dev.webBuffer = e.web.dev.webBuffer
      ∧ (servir x.parse e.web.dev p).dev.puntos = e.web.dev.puntos :=
    @servir_regla (fun d => d.webBuffer = e.web.dev.webBuffer ∧ d.puntos = e.web.dev.puntos)
      (fun _ _ _ kept => kept) (fun _ kept => kept) (fun _ _ kept => kept) x.parse _ ⟨rfl, rfl⟩ p
  rcases e.atiende_cases x p with ⟨-, same⟩ | same | same
  · rw [same]
    exact Or.inl alineada
  · rw [same]
    exact Or.inl (alineada.conWeb kept.1 kept.2)
  · exact Or.inr ⟨_, same⟩

/-- A turn of the serial task, by whether it builds a frame. -/
theorem uart (alineada : Alineada e f) (on : e.tareas = true) {v : Serial.Vuelta}
    (almacen : v.nvs = e.nvs)
    : Alineada (e.uart x v) (if construye x e v then { f with vuelta := some e.nvs } else f)
      ∨ e.uart x v = e.reinicio := by
  rcases e.uart_cases x v with ⟨t', reconstruido, done, same⟩ | ⟨-, same⟩
  · left
    rw [same, construye, done]
    obtain ⟨keys, kept, -⟩ := ciclo_textos done
    obtain ⟨-, -, -, -, limpio, -⟩ := Serial.ciclo_cases done
    have running : e.arrancado = true := by
      by_contra off
      exact Bool.false_ne_true ((alineada.apagada (Bool.eq_false_iff.mpr off)).symm.trans on)
    cases reconstruido with
    | false =>
        obtain ⟨webBuffer, puntos⟩ := kept rfl
        have webBuffer' := webBuffer.trans alineada.tx.1
        have frame : Muestra f.llaves t'.webBuffer f.vuelta := webBuffer' ▸ alineada.frame
        have partes : t'.puntos = f.parte t'.webBuffer := by
          rw [puntos, alineada.tx.2, webBuffer', alineada.puntos]
        exact {
          llaves := keys.trans alineada.llaves
          limpio := limpio alineada.limpio
          tx := ⟨rfl, rfl⟩
          frame := frame
          puntos := partes
          tramas := alineada.tramas
          largo := alineada.largo
          parada := alineada.parada
          apagada := alineada.apagada
        }
    | true =>
        obtain ⟨muestra, puntos⟩ := muestra_ciclo alineada.limpio done
        rw [alineada.llaves, almacen] at muestra
        rw [alineada.llaves] at puntos
        exact {
          llaves := keys.trans alineada.llaves
          limpio := limpio alineada.limpio
          tx := ⟨rfl, rfl⟩
          frame := muestra
          puntos := puntos
          tramas := alineada.tramas
          largo := alineada.largo
          parada := fun off => absurd (off.symm.trans on) Bool.false_ne_true
          apagada := fun off => absurd (off.symm.trans running) Bool.false_ne_true
        }
  · exact Or.inr same

/-- A round of the client restarts the card, or it leaves the frames that were sent before, with one
more if its login is followed by one.
-/
theorem httpRestWithUrl_tramas (reset : e.cliente.outputLen = 0) (login trama : Client.Intento)
    : (∃ otro : Esp32, e.httpRestWithUrl x login trama = otro.reinicio)
      ∨ ∃ c : Client.Cliente, e.httpRestWithUrl x login trama = e.conCliente c ∧ c.outputLen = 0
        ∧ if publica x e login then
            ∃ envio : Client.Envio, envio.postData = Client.tramaSensors e.web.dev.webBuffer
              ∧ c.tramas = e.cliente.tramas ++ [envio]
          else c.tramas = e.cliente.tramas := by
  rw [Esp32.httpRestWithUrl, publica]
  cases entered : Client.login x.parse { e.cliente with nvs := e.nvs } login with
  | none => exact Or.inl ⟨e, rfl⟩
  | some tras =>
      have left : tras.outputLen = 0 ∧ tras.tramas = e.cliente.tramas := by
        have reset' : ({ e.cliente with nvs := e.nvs } : Client.Cliente).outputLen = 0 := reset
        obtain ⟨-, -, dicho, -, rfl⟩ := (Client.login_iff reset').mp entered
        cases dicho <;> exact ⟨reset, rfl⟩
      simp only [Option.any_some, decide_eq_true_eq]
      by_cases one : tras.estado = 1
      · simp only [if_pos one]
        cases sent : Client.httptrama tras e.web.dev.webBuffer trama with
        | none => exact Or.inl ⟨_, rfl⟩
        | some final =>
            obtain ⟨url, -, -, -, rfl⟩ := (Client.httptrama_iff left.1).mp sent
            exact Or.inr ⟨_, rfl, left.1, _, rfl, congrArg (· ++ [_]) left.2⟩
      · simp only [if_neg one]
        exact Or.inr ⟨tras, rfl, left⟩

/-- A round of the client, by whether it sends a frame. -/
theorem login (alineada : Alineada e f) (on : e.tareas = true) (login trama : Client.Intento)
    : Alineada (e.httpRestWithUrl x login trama)
          (if publica x e login then { f with enviadas := f.enviadas ++ [f.vuelta] } else f)
      ∨ ∃ otro : Esp32, e.httpRestWithUrl x login trama = otro.reinicio := by
  rcases httpRestWithUrl_tramas (x := x) alineada.largo login trama
    with restarted | ⟨c, same, largo, tramas⟩
  · exact Or.inr restarted
  · left
    have conserva {f' : Fuentes} (llaves : f'.llaves = f.llaves) (vuelta : f'.vuelta = f.vuelta)
        (enviadas : List.Forall₂ (fun nvs envio =>
            ∃ texto, envio.postData = Client.tramaSensors texto ∧ Muestra f'.llaves texto nvs)
          f'.enviadas c.tramas)
        : Alineada (e.conCliente c) f' := {
      llaves := alineada.llaves.trans llaves.symm
      limpio := alineada.limpio
      tx := alineada.tx
      frame := by rw [llaves, vuelta]; exact alineada.frame
      puntos := by
        have parte : f'.parte = f.parte := by
          funext texto punto
          rw [Fuentes.parte, Fuentes.parte, llaves, vuelta]
        rw [parte]
        exact alineada.puntos
      tramas := enviadas
      largo := largo
      parada := fun off => absurd (off.symm.trans on) Bool.false_ne_true
      apagada := alineada.apagada
    }
    rw [same]
    by_cases sends : publica x e login = true
    · rw [if_pos sends] at tramas ⊢
      obtain ⟨envio, datos, sent⟩ := tramas
      refine conserva rfl rfl ?_
      rw [sent]
      exact List.rel_append alineada.tramas (.cons ⟨_, datos, alineada.frame⟩ .nil)
    · rw [if_neg sends] at tramas ⊢
      exact conserva rfl rfl (tramas ▸ alineada.tramas)

/-- A card at the start of its boot has shown nothing yet. -/
theorem nada_mostrado (alineada : Alineada e f) (off : e.arrancado = false)
    : f = .ninguna ∧ e.tareas = false ∧ e.web.dev.webBuffer = ['|']
      ∧ (e.web.dev.puntos = fun _ => []) ∧ e.cliente.tramas = [] := by
  have stopped := alineada.apagada off
  obtain rfl := alineada.parada stopped
  exact ⟨rfl, stopped, alineada.frame, alineada.puntos,
    List.forall₂_nil_left_iff.mp alineada.tramas⟩

/-- The boot of a card that is registered starts its tasks on the keys of its storage; any other
boot starts none.
-/
theorem appMain (alineada : Alineada e f) (off : e.arrancado = false)
    (respuesta : Option (List Char)) (suerte : Suerte)
    : Alineada (e.appMain x respuesta suerte)
        (f.anota x e (.appMain respuesta suerte) (e.appMain x respuesta suerte)) := by
  obtain ⟨rfl, stopped, webBuffer, puntos, tramas⟩ := alineada.nada_mostrado off
  have sinTareas (nvs : Almacen) : Alineada (({ e with arrancado := true }).conNvs nvs) .ninguna :=
    { alineada with
      apagada := fun absurd => by cases absurd }
  have arranca := e.appMain_cases x respuesta suerte
  generalize e.appMain x respuesta suerte = e' at arranca ⊢
  cases arranca with
  | @tareas ram loads =>
      have keys : ram.keysWithPorts = KeyValue.all.filter (Registrada e.nvs ·) := by
        rw [alArrancar] at loads
        obtain ⟨-, same⟩ := Option.ite_none_right_eq_some.mp loads
        rw [← Option.some.inj same, loadKeys_eq_filter]
      have corriendo : Alineada
          { e with
            txTask := Serial.TxTask.inicial ram.keysWithPorts
            arrancado := true
            tareas := true }
          ⟨some e.nvs, none, []⟩ := {
        llaves := keys
        limpio := by
          intro timestamp found
          cases found
        tx := ⟨webBuffer.symm, puntos.symm⟩
        frame := webBuffer
        puntos := puntos
        tramas := tramas ▸ .nil
        largo := alineada.largo
        parada := fun absurd => by cases absurd
        apagada := fun absurd => by cases absurd
      }
      rcases corriendo.suceso (.appMain suerte) with ⟨tras, -⟩ | ⟨otro, same⟩
      · exact tras.anota fun _ => if_neg (by rw [off]; exact Bool.false_ne_true)
      · rw [same]
        exact anota_reinicio _ _
  | @identidad nvs =>
      rcases (sinTareas (valoresIniciales nvs)).suceso (.appMain suerte)
        with ⟨tras, same⟩ | ⟨otro, same⟩
      · exact tras.anota fun on =>
          absurd (stopped.symm.trans (same.symm.trans on)) Bool.false_ne_true
      · rw [same]
        exact anota_reinicio _ _
  | @rehusada nvs =>
      exact (sinTareas nvs).anota fun on => absurd (stopped.symm.trans on) Bool.false_ne_true
  | reinicia => exact anota_reinicio _ _

/-- One event, by the event. -/
theorem paso (alineada : Alineada e f) (evento : Evento)
    : Alineada (e.paso x evento) (f.anota x e evento (e.paso x evento)) := by
  cases evento with
  | reinicio => exact anota_reinicio _ e
  | appMain respuesta suerte =>
      rw [Esp32.paso]
      split
      · next on => exact alineada.anota fun _ => if_pos on
      · next off => exact alineada.appMain (Bool.eq_false_iff.mpr off) respuesta suerte
  | disconnected =>
      rcases alineada.suceso .disconnected with ⟨tras, -⟩ | ⟨otro, same⟩
      · exact tras.anota fun _ => rfl
      · rw [Esp32.paso, same]
        exact anota_reinicio _ otro
  | gotIp suerte =>
      rcases alineada.suceso (.gotIp suerte) with ⟨tras, -⟩ | ⟨otro, same⟩
      · exact tras.anota fun _ => rfl
      · rw [Esp32.paso, same]
        exact anota_reinicio _ otro
  | uart temperatura digitalInput analogico fuera =>
      rw [Esp32.paso]
      split
      · next on =>
        have almacen : (⟨temperatura, digitalInput, analogico, e.nvs, fuera⟩ : Serial.Vuelta).nvs
            = e.nvs := rfl
        rcases alineada.uart on almacen with tras | same
        · exact tras.anota fun _ => rfl
        · rw [same]
          exact anota_reinicio _ e
      · next off => exact alineada.anota fun running => absurd running off
  | login login trama =>
      rw [Esp32.paso]
      split
      · next on =>
        rcases alineada.login on login trama with tras | ⟨otro, same⟩
        · exact tras.anota fun _ => rfl
        · rw [same]
          exact anota_reinicio _ otro
      · next off => exact alineada.anota fun running => absurd running off
  | peticion p =>
      rcases alineada.atiende p with tras | ⟨otro, same⟩
      · exact tras.anota fun _ => rfl
      · rw [Esp32.paso, same]
        exact anota_reinicio _ otro
  | apagon p k =>
      rw [Esp32.paso]
      rcases e.apagon_cases x p k with same | same
      · rw [same]
        exact anota_reinicio _ e
      · rw [same]
        exact anota_reinicio _ _

end Alineada

/-- The sources of a run from a boot of the card. -/
def fuentesDe (x : Externo) (dev : Device) (eventos : List Evento) : Fuentes :=
  (firmware x).account (Fuentes.anota x) (Esp32.arranque dev) .ninguna eventos

/-- In every run of a card, through restarts, power failures and requests of any kind, its server
shows at `/WEBBUFFER` one segment for each key that the boot of the tasks loaded, at the ports which
the last turn found in the storage, and at the other endpoints the segments of their groups; and the
frames that the client has posted since that boot show the same keys, each at the ports of the turn
in front of it. Witness: `Alineada.paso` along the run.
-/
theorem paneles_del_arranque (x : Externo) (nvs : Almacen) (archivos : Str → Option Str)
    (mac : Vector UInt8 6) (eventos : List Evento)
    : let f := fuentesDe x (.arranque nvs archivos mac) eventos
      ∃ e texto,
        (firmware x).run (Esp32.arranque (.arranque nvs archivos mac)) eventos = some e
        ∧ (servir x.parse e.web.dev .webbuffer).enviados
          = [.documento (tramaEndp "WEBBUFFER" "DATA" texto)]
        ∧ Muestra f.llaves texto f.vuelta
        ∧ (∀ punto, (servir x.parse e.web.dev (.punto punto)).enviados
          = [.documento (tramaEndp (nombrePunto punto) "DATA" (f.parte texto punto))])
        ∧ List.Forall₂ (fun nvs envio =>
            ∃ texto, envio.postData = Client.tramaSensors texto ∧ Muestra f.llaves texto nvs)
          f.enviadas e.cliente.tramas := by
  intro f
  obtain ⟨e, reached⟩ := firmware_run x (Esp32.arranque (.arranque nvs archivos mac)) eventos
  have start : Alineada (Esp32.arranque (.arranque nvs archivos mac)) .ninguna :=
    Alineada.reinicio (Esp32.arranque (.arranque nvs archivos mac))
  have preserved (e : Esp32) (f : Fuentes) (evento : Evento) (e' : Esp32) (alineada : Alineada e f)
      (taken : (firmware x).step e evento = some e')
      : Alineada e' (f.anota x e evento e') :=
    Option.some.inj taken ▸ alineada.paso evento
  have last : Alineada e f := Machine.invariant_account preserved start reached
  refine ⟨e, e.web.dev.webBuffer, reached, rfl, last.frame, fun punto => ?_, last.tramas⟩
  rw [← last.puntos]
  rfl

-----------------------------------------------------------------------------------------
-- Until the next boot
-----------------------------------------------------------------------------------------

/-- While its tasks run, the card shows these keys. -/
def Sostiene (llaves : List KeyValue) (e : Esp32) : Prop :=
  ∃ f, Alineada e f ∧ (e.tareas = true → f.llaves = llaves)

/-- Only a boot changes the keys. -/
theorem Alineada.llaves_tras {x : Externo} {e : Esp32} {f : Fuentes} (alineada : Alineada e f)
    (on : e.tareas = true) (evento : Evento)
    : (f.tras x e evento).llaves = f.llaves := by
  cases evento with
  | appMain respuesta suerte =>
      rw [Fuentes.tras]
      split
      · rfl
      · next off =>
        exact absurd ((alineada.apagada (Bool.eq_false_iff.mpr off)).symm.trans on)
          Bool.false_ne_true
  | uart temperatura digitalInput analogico fuera =>
      rw [Fuentes.tras]
      split <;> rfl
  | login login trama =>
      rw [Fuentes.tras]
      split <;> rfl
  | _ => rfl

/-- A card whose tasks go on running shows the same keys, whatever is stored in between. -/
theorem sostiene_run {x : Externo} {llaves : List KeyValue} {e e' : Esp32}
    {eventos : List Evento} (sostiene : Sostiene llaves e)
    (corriendo : (firmware x).Along (fun e _ => e.tareas = true) e eventos)
    (reached : (firmware x).run e eventos = some e')
    : Sostiene llaves e' := by
  have preserved (e : Esp32) (evento : Evento) (e' : Esp32) (on : e.tareas = true)
      (sostiene : Sostiene llaves e) (taken : (firmware x).step e evento = some e')
      : Sostiene llaves e' := by
    obtain ⟨f, alineada, same⟩ := sostiene
    obtain rfl := Option.some.inj taken
    refine ⟨_, alineada.paso evento, fun running => ?_⟩
    rw [Fuentes.anota, if_pos running, alineada.llaves_tras on, same on]
  exact Machine.invariant_run_of_guard preserved corriendo sostiene reached

end EspHttpControl.Firmware
