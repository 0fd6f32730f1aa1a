import EspHttpControl.Firmware.Identidad
import EspHttpControl.Http.Reset

/-! What a factory reset leaves of the card before it, once the card has booted: nothing but its
files. Two cards are compared up to the numbers of their server instances, and up to the copy of the
storage that the client keeps and never reads.
-/

namespace EspHttpControl.Firmware

open CText Nvs Machines Http

/-- The handle, when the instances are numbered from `k` on. -/
def renumera (k : Nat) : Handle → Handle
  | .httpd instancia => .httpd (instancia + k)
  | otro => otro

def renumerado (k : Nat) (w : Webserver) : Webserver :=
  { w with
    server := renumera k w.server
    activos := w.activos.map (· + k)
    siguiente := w.siguiente + k }

namespace Esp32

def renumerada (k : Nat) (e : Esp32) : Esp32 := { e with web := renumerado k e.web }

/-- The client with the storage of the card in the place of its own copy. -/
def fresca (e : Esp32) : Esp32 := { e with cliente := { e.cliente with nvs := e.nvs } }

/-- The cards are the same, but for the numbers of their instances and the copy of the client. -/
def Iguales (e o : Esp32) : Prop := ∃ k l, (e.renumerada k).fresca = (o.renumerada l).fresca

/-- Nothing that the two cards show tells one from the other. -/
structure Indistinguibles (e o : Esp32) : Prop where
  dev : e.web.dev = o.web.dev
  servidor : e.web.activos = [] ↔ o.web.activos = []
  tramas : e.cliente.tramas = o.cliente.tramas
  registrados : e.cliente.registrados = o.cliente.registrados
  txTask : e.txTask = o.txTask
  tareas : e.tareas = o.tareas

theorem Iguales.indistinguibles {e o : Esp32} (iguales : e.Iguales o) : e.Indistinguibles o := by
  obtain ⟨k, l, same⟩ := iguales
  have activos : e.web.activos.map (· + k) = o.web.activos.map (· + l) :=
    congrArg (fun e => e.web.activos) same
  exact {
    dev := congrArg (fun e => e.web.dev) same
    servidor := by rw [← List.map_eq_nil_iff, activos, List.map_eq_nil_iff]
    tramas := congrArg (fun e => e.cliente.tramas) same
    registrados := congrArg (fun e => e.cliente.registrados) same
    txTask := congrArg (fun e => e.txTask) same
    tareas := congrArg (fun e => e.tareas) same
  }

end Esp32

-----------------------------------------------------------------------------------------
-- The numbers of the instances
-----------------------------------------------------------------------------------------

theorem renumerado_startWebserver (k : Nat) (w : Webserver) (suerte : Suerte)
    : (renumerado k w).startWebserver suerte
      = (renumera k (w.startWebserver suerte).1, renumerado k (w.startWebserver suerte).2) := by
  have free : (renumerado k w).serverData = w.serverData := rfl
  rw [Webserver.startWebserver, Webserver.startWebserver, free]
  split
  · rfl
  · split
    · rfl
    · dsimp only
      split
      · have next : w.siguiente + k + 1 = w.siguiente + 1 + k := Nat.add_right_comm _ _ _
        simp only [renumerado, renumera, Device.leerNvs, List.map_cons, next]
      · rfl

/-- A step does the same under any numbering, by the step. -/
theorem renumerado_paso (k : Nat) (w : Webserver) (suceso : Suceso)
    : (renumerado k w).paso suceso = (w.paso suceso).map (renumerado k) := by
  cases suceso with
  | appMain suerte =>
      have called : (renumerado k w).appMain = w.appMain := rfl
      rw [Webserver.paso, Webserver.paso, called, renumerado_startWebserver]
      split <;> rfl
  | disconnected =>
      obtain ⟨dev, serverData, server, activos, siguiente, appMain⟩ := w
      cases server with
      | null => rfl
      | codigo err => rfl
      | httpd instancia =>
          have member : instancia + k ∈ activos.map (· + k) ↔ instancia ∈ activos :=
            List.mem_map_of_injective (add_left_injective k)
          have others : (activos.map (· + k)).filter (· ≠ instancia + k)
              = (activos.filter (· ≠ instancia)).map (· + k) := by
            rw [List.filter_map]
            refine congrArg _ (List.filter_congr fun otra _ => ?_)
            simp
          simp only [Webserver.paso, renumerado, renumera, member, others]
          split <;> rfl
  | gotIp suerte =>
      have null : renumera k w.server = .null ↔ w.server = .null := by
        cases w.server <;> simp [renumera]
      have handle : (renumerado k w).server = renumera k w.server := rfl
      rw [Webserver.paso, Webserver.paso, handle, renumerado_startWebserver]
      simp only [null]
      split <;> rfl

namespace Esp32

variable (x : Externo) (k : Nat) (e : Esp32)

theorem renumerada_suceso (suceso : Suceso)
    : (e.renumerada k).suceso suceso = (e.suceso suceso).renumerada k := by
  rw [Esp32.suceso, Esp32.suceso, renumerada, renumerado_paso]
  cases e.web.paso suceso <;> rfl

theorem renumerada_appMain (respuesta : Option (List Char)) (suerte : Suerte)
    : (e.renumerada k).appMain x respuesta suerte
      = (e.appMain x respuesta suerte).renumerada k := by
  have nvs : ({ e.renumerada k with arrancado := true } : Esp32).nvs
      = ({ e with arrancado := true } : Esp32).nvs :=
    rfl
  have mac : (e.renumerada k).web.dev.mac = e.web.dev.mac := rfl
  rw [Esp32.appMain, Esp32.appMain]
  dsimp only
  rw [nvs, mac]
  split
  · next ram loads =>
    exact renumerada_suceso k { e with
      txTask := Serial.TxTask.inicial ram.keysWithPorts
      arrancado := true
      tareas := true } (.appMain suerte)
  · split
    · next nvs asked =>
      exact renumerada_suceso k
        (({ e with arrancado := true } : Esp32).conNvs (valoresIniciales nvs)) (.appMain suerte)
    · rfl
    · rfl

theorem renumerada_uart (vuelta : Serial.Vuelta)
    : (e.renumerada k).uart x vuelta = (e.uart x vuelta).renumerada k := by
  have txTask : (e.renumerada k).txTask = e.txTask := rfl
  rw [Esp32.uart, Esp32.uart, txTask]
  cases Serial.ciclo x.atof e.txTask vuelta <;> rfl

theorem renumerada_httpRestWithUrl (login trama : Client.Intento)
    : (e.renumerada k).httpRestWithUrl x login trama
      = (e.httpRestWithUrl x login trama).renumerada k := by
  have cliente : ({ (e.renumerada k).cliente with nvs := (e.renumerada k).nvs } : Client.Cliente)
      = { e.cliente with nvs := e.nvs } :=
    rfl
  have webBuffer : (e.renumerada k).web.dev.webBuffer = e.web.dev.webBuffer := rfl
  rw [Esp32.httpRestWithUrl, Esp32.httpRestWithUrl, cliente, webBuffer]
  cases Client.login x.parse { e.cliente with nvs := e.nvs } login with
  | none => rfl
  | some tras =>
      dsimp only
      split
      · cases Client.httptrama tras e.web.dev.webBuffer trama <;> rfl
      · rfl

theorem renumerada_sin_servidor : (e.renumerada k).web.activos = [] ↔ e.web.activos = [] :=
  List.map_eq_nil_iff

theorem renumerada_atiende (p : Peticion)
    : (e.renumerada k).atiende x p = (e.atiende x p).renumerada k := by
  have dev : (e.renumerada k).web.dev = e.web.dev := rfl
  rw [Esp32.atiende, Esp32.atiende, dev]
  simp only [renumerada_sin_servidor]
  split
  · rfl
  · cases (servir x.parse e.web.dev p).fin <;> rfl

theorem renumerada_apagon (p : Peticion) (j : Nat)
    : (e.renumerada k).apagon x p j = (e.apagon x p j).renumerada k := by
  rw [Esp32.apagon, Esp32.apagon]
  simp only [renumerada_sin_servidor]
  split <;> rfl

/-- An event does the same under any numbering, by the event. -/
theorem renumerada_paso (evento : Evento)
    : (e.renumerada k).paso x evento = (e.paso x evento).renumerada k := by
  have arrancado : (e.renumerada k).arrancado = e.arrancado := rfl
  have tareas : (e.renumerada k).tareas = e.tareas := rfl
  cases evento with
  | reinicio => rfl
  | appMain respuesta suerte =>
      rw [Esp32.paso, Esp32.paso, arrancado]
      split
      · rfl
      · exact renumerada_appMain x k e respuesta suerte
  | disconnected => exact renumerada_suceso k e .disconnected
  | gotIp suerte => exact renumerada_suceso k e (.gotIp suerte)
  | uart temperatura digitalInput analogico fuera =>
      rw [Esp32.paso, Esp32.paso, tareas]
      split
      · exact renumerada_uart x k e _
      · rfl
  | login login trama =>
      rw [Esp32.paso, Esp32.paso, tareas]
      split
      · exact renumerada_httpRestWithUrl x k e login trama
      · rfl
  | peticion p => exact renumerada_atiende x k e p
  | apagon p j => exact renumerada_apagon x k e p j

-----------------------------------------------------------------------------------------
-- The copy of the client
-----------------------------------------------------------------------------------------

theorem fresca_suceso {e o : Esp32} (same : e.fresca = o.fresca) (suceso : Suceso)
    : (e.suceso suceso).fresca = (o.suceso suceso).fresca := by
  have alone (e : Esp32) : (e.fresca.suceso suceso).fresca = (e.suceso suceso).fresca := by
    have web : e.fresca.web = e.web := rfl
    rw [Esp32.suceso, Esp32.suceso, web]
    cases e.web.paso suceso <;> rfl
  rw [← alone e, same, alone o]

theorem fresca_appMain (respuesta : Option (List Char)) (suerte : Suerte)
    : (e.fresca.appMain x respuesta suerte).fresca = (e.appMain x respuesta suerte).fresca := by
  have nvs : ({ e.fresca with arrancado := true } : Esp32).nvs
      = ({ e with arrancado := true } : Esp32).nvs :=
    rfl
  have mac : e.fresca.web.dev.mac = e.web.dev.mac := rfl
  rw [Esp32.appMain, Esp32.appMain]
  dsimp only
  rw [nvs, mac]
  split
  · apply fresca_suceso
    rfl
  · split
    · apply fresca_suceso
      rfl
    · rfl
    · rfl

/-- The client reads the storage of the card, never its own copy; by the event. -/
theorem fresca_paso (evento : Evento)
    : (e.fresca.paso x evento).fresca = (e.paso x evento).fresca := by
  have arrancado : e.fresca.arrancado = e.arrancado := rfl
  have tareas : e.fresca.tareas = e.tareas := rfl
  cases evento with
  | reinicio => rfl
  | appMain respuesta suerte =>
      rw [Esp32.paso, Esp32.paso, arrancado]
      split
      · rfl
      · exact fresca_appMain x e respuesta suerte
  | disconnected => exact fresca_suceso (e := e.fresca) (o := e) rfl .disconnected
  | gotIp suerte => exact fresca_suceso (e := e.fresca) (o := e) rfl (.gotIp suerte)
  | uart temperatura digitalInput analogico fuera =>
      rw [Esp32.paso, Esp32.paso, tareas]
      split
      · have inputs : e.fresca.txTask = e.txTask ∧ e.fresca.nvs = e.nvs := ⟨rfl, rfl⟩
        rw [Esp32.uart, Esp32.uart, inputs.1, inputs.2]
        cases Serial.ciclo x.atof e.txTask ⟨temperatura, digitalInput, analogico, e.nvs, fuera⟩
          <;> rfl
      · rfl
  | login login trama =>
      rw [Esp32.paso, Esp32.paso, tareas]
      split <;> rfl
  | peticion p =>
      have web : e.fresca.web = e.web := rfl
      rw [Esp32.paso, Esp32.paso, Esp32.atiende, Esp32.atiende, web]
      split
      · rfl
      · dsimp only
        cases (servir x.parse e.web.dev p).fin <;> rfl
  | apagon p j =>
      have web : e.fresca.web = e.web := rfl
      rw [Esp32.paso, Esp32.paso, Esp32.apagon, Esp32.apagon, web]
      split <;> rfl

-----------------------------------------------------------------------------------------
-- Behind the reset
-----------------------------------------------------------------------------------------

/-- Cards that are the same stay so. -/
theorem iguales_follows : (firmware x).Follows (firmware x) Iguales := by
  intro e o evento e' iguales taken
  obtain ⟨k, l, same⟩ := iguales
  obtain rfl := Option.some.inj taken
  refine ⟨o.paso x evento, rfl, k, l, ?_⟩
  rw [← renumerada_paso, ← fresca_paso, same, fresca_paso, renumerada_paso]

variable {x} {e} {nvs : Almacen}

/-- The boot of a card that is not registered does not depend on what it has stored. -/
theorem appMain_conNvs (borrable : e.nvs.get "7_STATUS-MATR" ≠ some ['1'])
    (nueva : nvs.get "7_STATUS-MATR" ≠ some ['1']) (respuesta : Option (List Char))
    (suerte : Suerte)
    : (e.conNvs nvs).appMain x respuesta suerte = e.appMain x respuesta suerte := by
  have loads (e : Esp32) (sin : e.nvs.get "7_STATUS-MATR" ≠ some ['1'])
      : alArrancar ({ e with arrancado := true } : Esp32).nvs = none :=
    not_not.mp fun some' => sin (alArrancar_ne_none.mp some')
  have mac : (e.conNvs nvs).web.dev.mac = e.web.dev.mac := rfl
  rw [Esp32.appMain, Esp32.appMain]
  dsimp only
  rw [loads e borrable, loads (e.conNvs nvs) nueva, mac]
  dsimp only
  split <;> rfl

/-- A card that restarts is a new one with its files, but for what it has stored. -/
theorem iguales_reinicio (e : Esp32) (nvs : Almacen)
    : (e.reinicio.conNvs nvs).Iguales
        (arranque (.arranque nvs e.web.dev.archivos e.web.dev.mac)) := by
  refine ⟨0, e.web.siguiente, ?_⟩
  have count : (0 : Nat) + e.web.siguiente = e.web.siguiente + 0 := Nat.add_comm _ _
  simp only [renumerada, renumerado, renumera, arranque, Webserver.arranque, count]
  rfl

/-- The boots of two cards that are not registered and have the same files go on alike. -/
theorem arranques_indistinguibles (borrable : e.nvs.get "7_STATUS-MATR" ≠ some ['1'])
    (nueva : nvs.get "7_STATUS-MATR" ≠ some ['1']) (respuesta : Option (List Char))
    (suerte : Suerte) (eventos : List Evento)
    : ∃ usada otra,
        (firmware x).run e.reinicio (.appMain respuesta suerte :: eventos) = some usada
        ∧ (firmware x).run
            (arranque (.arranque nvs e.web.dev.archivos e.web.dev.mac))
            (.appMain respuesta suerte :: eventos) = some otra
        ∧ usada.Indistinguibles otra := by
  have first : e.reinicio.paso x (.appMain respuesta suerte)
      = (e.reinicio.conNvs nvs).paso x (.appMain respuesta suerte) :=
    (appMain_conNvs (e := e.reinicio) borrable nueva respuesta suerte).symm
  obtain ⟨usada, reached⟩ := firmware_run x (e.reinicio.conNvs nvs)
    (.appMain respuesta suerte :: eventos)
  obtain ⟨otra, followed, iguales⟩ :=
    (iguales_follows x).run (iguales_reinicio e nvs) reached
  refine ⟨usada, otra, ?_, followed, iguales.indistinguibles⟩
  rw [← reached, Machine.run_cons, Machine.run_cons, firmware]
  dsimp only
  rw [first]

/-- The request for the reset, whatever becomes of its handler behind it. -/
theorem reinicio_reset (servidor : e.web.activos ≠ []) {p : Peticion}
    (reset : Restablece x.parse e.web.dev p)
    : (e.atiende x p).reinicio = (e.conNvs (trasReset e.nvs)).reinicio := by
  rcases e.atiende_cases x p with ⟨none', -⟩ | same | same
  · exact absurd none' servidor
  · rw [same, reset.dev, Esp32.conNvs, Esp32.nvs]
  · rw [same, reset.dev, Esp32.conNvs, Esp32.nvs]
    generalize trasReset e.web.dev.nvs = nvs
    rfl

theorem status_trasReset (nvs : Almacen)
    : (trasReset nvs).get "7_STATUS-MATR" = some ['0'] := by
  have ports : "7_STATUS-MATR" ∉ paresPuertos.map Prod.fst :=
    paresPuertos_registros ▸ status_ajeno.1
  have distintas : (paresDefault.map Prod.fst).Nodup :=
    paresDefault_registros ▸ valoresDefault_wellFormed.1
  rw [trasReset, Registers.Store.get_writeAll_of_not_mem ports]
  exact Registers.Store.get_writeAll_of_mem distintas (by decide) (by decide) nvs

end Esp32

/-- A factory reset forgets all that was stored: behind an authenticated request for it, a restart
and the boot, whatever the STM answers and whatever happens then, nothing tells the card from a new
one with the same address and the same files. Witness: the boot erases the storage, and from there
on the two cards are the same but for the numbers of their server instances.
-/
theorem reset_indistinguible {x : Externo} {e : Esp32} (servidor : e.web.activos ≠ [])
    {p : Peticion} (reset : Restablece x.parse e.web.dev p) {nvs : Almacen}
    (nueva : nvs.get "7_STATUS-MATR" ≠ some ['1']) (respuesta : Option (List Char))
    (suerte : Suerte) (eventos : List Evento)
    : ∃ usada otra,
        (firmware x).run e
            (.peticion p :: .reinicio :: .appMain respuesta suerte :: eventos) = some usada
        ∧ (firmware x).run (Esp32.arranque
              (.arranque nvs e.web.dev.archivos e.web.dev.mac))
            (.appMain respuesta suerte :: eventos) = some otra
        ∧ usada.Indistinguibles otra := by
  have borrable : (e.conNvs (trasReset e.nvs)).nvs.get "7_STATUS-MATR" ≠ some ['1'] := by
    have mark := Esp32.status_trasReset e.nvs
    intro same
    cases mark.symm.trans same
  obtain ⟨usada, otra, reached, followed, same⟩ := 
    Esp32.arranques_indistinguibles (x := x) borrable nueva respuesta suerte eventos
  refine ⟨usada, otra, ?_, followed, same⟩
  have restarted : (e.atiende x p).reinicio = (e.conNvs (trasReset e.nvs)).reinicio :=
    Esp32.reinicio_reset servidor reset
  rw [← reached, ← restarted]
  rfl

/-- Witness: a registered card that gets its network, the request, and a boot without an answer. -/
theorem reset_indistinguible_registrada
    : ∃ usada otra,
        (firmware sinCifrar).run (Esp32.arranque registrada)
            [.gotIp ⟨true, true⟩, .peticion reinicioDeFabrica, .reinicio,
              .appMain none ⟨true, true⟩] = some usada
        ∧ (firmware sinCifrar).run
            (Esp32.arranque (.arranque .empty registrada.archivos registrada.mac))
            [.appMain none ⟨true, true⟩] = some otra
        ∧ usada.web.dev = otra.web.dev := by
  let e := (Esp32.arranque registrada).paso sinCifrar (.gotIp ⟨true, true⟩)
  have servidor : e.web.activos ≠ [] := List.cons_ne_nil 0 []
  have nueva : (.empty : Almacen).get "7_STATUS-MATR" ≠ some ['1'] := by
    decide
  have stored : registrada.nvs.get tokHttpser = some secreto := by
    decide +kernel
  have reset : Restablece sinCifrar.parse e.web.dev reinicioDeFabrica :=
    restablece_enServicio stored
  obtain ⟨usada, otra, reached, followed, same⟩ :=
    reset_indistinguible servidor reset nueva none ⟨true, true⟩ []
  have started : (firmware sinCifrar).step (Esp32.arranque registrada) (.gotIp ⟨true, true⟩)
      = some e :=
    rfl
  refine ⟨usada, otra, ?_, followed, same.dev⟩
  rw [Machine.run_cons, started, Option.bind_some]
  exact reached

end EspHttpControl.Firmware
