import EspHttpControl.Firmware.Identidad

/-! The whole card behind a drop of its network. `stop_webserver` stops the server and leaves the
static pointer of `start_webserver` set, so that no later call starts another one; the error code
that such a call returns is taken for a handle at the next drop.
-/

namespace EspHttpControl.Firmware

open CText Nvs Machines Http

/-- What an event does with the server: nothing but to its device, one call or network event, or a
restart of the card.
-/
inductive EnServidor (e e' : Esp32) : Prop
  | aparte {dev : Device} (web : e'.web = { e.web with dev := dev })
  | sucede {dev : Device} {suceso : Suceso}
    (taken : ({ e.web with dev := dev } : Webserver).paso suceso = some e'.web)
  | reinicia {otro : Esp32} (same : e' = otro.reinicio)

theorem enServidor_suceso {e : Esp32} (dev : Device) (antes : Esp32)
    (web : antes.web = { e.web with dev := dev }) (suceso : Suceso)
    : EnServidor e (antes.suceso suceso) := by
  rcases antes.suceso_cases suceso with ⟨w, taken, same⟩ | same
  · rw [web] at taken
    rw [same]
    exact .sucede taken
  · exact .reinicia same

theorem enServidor_appMain (x : Externo) (e : Esp32) (respuesta : Option (List Char))
    (suerte : Suerte)
    : EnServidor e (e.appMain x respuesta suerte) := by
  have arranca := e.appMain_cases x respuesta suerte
  generalize e.appMain x respuesta suerte = e' at arranca ⊢
  cases arranca with
  | tareas =>
      refine enServidor_suceso e.web.dev _ ?_ (.appMain suerte)
      rfl
  | @identidad nvs =>
      refine enServidor_suceso { e.web.dev with nvs := valoresIniciales nvs } _ ?_ (.appMain suerte)
      rfl
  | rehusada => exact .aparte rfl
  | reinicia => exact .reinicia rfl

theorem enServidor_httpRestWithUrl (x : Externo) (e : Esp32) (login trama : Client.Intento)
    : EnServidor e (e.httpRestWithUrl x login trama) := by
  rw [Esp32.httpRestWithUrl]
  split
  · exact .reinicia rfl
  · split
    · split
      · exact .reinicia rfl
      · exact .aparte rfl
    · exact .aparte rfl

theorem enServidor_atiende (x : Externo) (e : Esp32) (p : Peticion)
    : EnServidor e (e.atiende x p) := by
  rcases e.atiende_cases x p with ⟨-, same⟩ | same | same
  · rw [same]
    exact .aparte rfl
  · rw [same]
    exact .aparte rfl
  · exact .reinicia same

/-- Every event of the card, by the event. -/
theorem enServidor_paso (x : Externo) (e : Esp32) (evento : Evento)
    : EnServidor e (e.paso x evento) := by
  cases evento with
  | reinicio => exact .reinicia rfl
  | appMain respuesta suerte =>
      rw [Esp32.paso]
      split
      · exact .aparte rfl
      · exact enServidor_appMain x e respuesta suerte
  | disconnected => exact enServidor_suceso e.web.dev e rfl .disconnected
  | gotIp suerte => exact enServidor_suceso e.web.dev e rfl (.gotIp suerte)
  | uart temperatura digitalInput analogico fuera =>
      rw [Esp32.paso]
      split
      · rcases e.uart_cases x ⟨temperatura, digitalInput, analogico, e.nvs, fuera⟩
          with ⟨txTask, reconstruido, -, same⟩ | ⟨-, same⟩
        · rw [same]
          exact .aparte rfl
        · exact .reinicia same
      · exact .aparte rfl
  | login login trama =>
      rw [Esp32.paso]
      split
      · exact enServidor_httpRestWithUrl x e login trama
      · exact .aparte rfl
  | peticion p => exact enServidor_atiende x e p
  | apagon p k =>
      rcases e.apagon_cases x p k with same | same
      · exact .reinicia same
      · exact .reinicia same

/-- What the calls and network events of the server preserve from a boot on, and what does not
depend on the device, holds of the server in every run of the card.
-/
theorem servidor_regla {Inv : Webserver → Prop} (boot : ∀ dev siguiente,
      Inv { Webserver.arranque dev with siguiente := siguiente })
    (device : ∀ w dev, Inv w → Inv { w with dev := dev })
    (preserved : ∀ w suceso w', Inv w → w.paso suceso = some w' → Inv w')
    {x : Externo} {dev : Device} {eventos : List Evento} {e : Esp32}
    (reached : (firmware x).run (Esp32.arranque dev) eventos = some e)
    : Inv e.web := by
  have step (e : Esp32) (evento : Evento) (e' : Esp32) (held : Inv e.web)
      (taken : (firmware x).step e evento = some e')
      : Inv e'.web := by
    obtain rfl := Option.some.inj taken
    cases enServidor_paso x e evento with
    | aparte web => exact web ▸ device e.web _ held
    | sucede taken => exact preserved _ _ _ (device e.web _ held) taken
    | reinicia same => exact same ▸ boot _ _
  have start : Inv (Esp32.arranque dev).web := boot dev 0
  exact Machine.invariant_run step start reached

/-- At most one instance runs, and none before the first call. -/
structure Unica (w : Webserver) : Prop where
  libre : w.serverData = false → w.activos = []
  una : w.activos.length ≤ 1

theorem unica_startWebserver {w : Webserver} (unica : Unica w) (suerte : Suerte) (server : Handle)
    (appMain : Bool)
    : Unica { (w.startWebserver suerte).2 with server := server, appMain := appMain } := by
  rw [Webserver.startWebserver]
  split
  · exact ⟨unica.libre, unica.una⟩
  · next off =>
    have none' := unica.libre (Bool.eq_false_iff.mpr off)
    split
    · exact ⟨unica.libre, unica.una⟩
    · split
      · refine ⟨Bool.noConfusion, ?_⟩
        simp [none']
      · exact ⟨Bool.noConfusion, unica.una⟩

theorem unica_paso {w w' : Webserver} {suceso : Suceso} (unica : Unica w)
    (taken : w.paso suceso = some w')
    : Unica w' := by
  cases suceso with
  | appMain suerte =>
      simp only [Webserver.paso] at taken
      split at taken
      · cases taken
      · obtain rfl := Option.some.inj taken
        exact unica_startWebserver unica suerte _ _
  | disconnected =>
      simp only [Webserver.paso] at taken
      split at taken
      · obtain rfl := Option.some.inj taken
        exact unica
      · cases taken
      · split at taken
        · obtain rfl := Option.some.inj taken
          refine ⟨fun off => ?_, (List.length_filter_le _ _).trans unica.una⟩
          dsimp only
          rw [unica.libre off]
          rfl
        · cases taken
  | gotIp suerte =>
      simp only [Webserver.paso] at taken
      split at taken
      · obtain rfl := Option.some.inj taken
        exact unica_startWebserver unica suerte _ _
      · obtain rfl := Option.some.inj taken
        exact unica

-----------------------------------------------------------------------------------------
-- Behind the drop
-----------------------------------------------------------------------------------------

/-- `start_webserver` has been called and no instance runs; the handle is none of an instance. -/
structure Perdido (w : Webserver) : Prop where
  datos : w.serverData = true
  activos : w.activos = []
  server : ∀ instancia, w.server ≠ .httpd instancia

/-- As `Perdido`, with an error code for a handle. -/
structure Trabado (w : Webserver) : Prop where
  perdido : Perdido w
  codigo : ∃ err, w.server = .codigo err

/-- A later call of `start_webserver` leaves an error code. -/
theorem Perdido.trabado {w : Webserver} (perdido : Perdido w) (suerte : Suerte) (appMain : Bool)
    : Trabado { (w.startWebserver suerte).2 with
        server := (w.startWebserver suerte).1
        appMain := appMain } := by
  rw [Webserver.startWebserver, if_pos perdido.datos]
  refine ⟨⟨perdido.datos, perdido.activos, fun instancia same => ?_⟩, _, rfl⟩
  cases same

/-- A lost server stays lost, and so does the error code. -/
theorem Perdido.paso {w w' : Webserver} {suceso : Suceso} (perdido : Perdido w)
    (taken : w.paso suceso = some w')
    : Perdido w' ∧ (Trabado w → Trabado w') := by
  cases suceso with
  | appMain suerte =>
      simp only [Webserver.paso] at taken
      split at taken
      · cases taken
      · obtain rfl := Option.some.inj taken
        have trabado := perdido.trabado suerte true
        exact ⟨trabado.perdido, fun _ => trabado⟩
  | disconnected =>
      simp only [Webserver.paso] at taken
      split at taken
      · obtain rfl := Option.some.inj taken
        exact ⟨perdido, fun trabado => trabado⟩
      · cases taken
      · next instancia handle => exact absurd handle (perdido.server instancia)
  | gotIp suerte =>
      simp only [Webserver.paso] at taken
      split at taken
      · obtain rfl := Option.some.inj taken
        have trabado := perdido.trabado suerte (w.startWebserver suerte).2.appMain
        exact ⟨trabado.perdido, fun _ => trabado⟩
      · obtain rfl := Option.some.inj taken
        exact ⟨perdido, fun trabado => trabado⟩

/-- The notes of the server last until the card restarts, which clears the static pointer. -/
theorem hasta_reinicio {Inv : Webserver → Prop}
    (device : ∀ w dev, Inv w → Inv { w with dev := dev })
    (preserved : ∀ w suceso w', Inv w → w.paso suceso = some w' → Inv w')
    {x : Externo} {e e' : Esp32} {eventos : List Evento} (start : Inv e.web)
    (corriendo : (firmware x).Along (fun e _ => e.web.serverData = true) e eventos)
    (reached : (firmware x).run e eventos = some e') (on : e'.web.serverData = true)
    : Inv e'.web := by
  have step (e : Esp32) (evento : Evento) (e' : Esp32) (on : e.web.serverData = true)
      (held : e.web.serverData = true → Inv e.web)
      (taken : (firmware x).step e evento = some e')
      : e'.web.serverData = true → Inv e'.web := by
    obtain rfl := Option.some.inj taken
    intro later
    cases enServidor_paso x e evento with
    | aparte web => exact web ▸ device e.web _ (held on)
    | sucede taken => exact preserved _ _ _ (device e.web _ (held on)) taken
    | reinicia same =>
        rw [same] at later
        cases later
  exact Machine.invariant_run_of_guard step corriendo (fun _ => start) reached on

/-- The drop of the network on a card whose server runs. -/
theorem perdido_disconnected {x : Externo} {e : Esp32} (unica : Unica e.web) (marcha : e.web.EnMarcha)
    : Perdido (e.paso x .disconnected).web := by
  obtain ⟨instancia, handle, running⟩ := marcha
  have datos : e.web.serverData = true := by
    by_contra off
    rw [unica.libre (Bool.eq_false_iff.mpr off)] at running
    cases running
  have sola : e.web.activos = [instancia] := by
    obtain ⟨otra, only⟩ := List.length_eq_one_iff.mp
      (Nat.le_antisymm unica.una (List.length_pos_of_mem running))
    rw [only] at running ⊢
    rw [List.mem_singleton.mp running]
  have taken : e.web.paso .disconnected = some { e.web with server := .null, activos := [] } := by
    simp only [Webserver.paso, handle, sola, List.mem_singleton, if_true]
    simp
  rw [Esp32.paso, Esp32.suceso, taken]
  refine ⟨datos, rfl, fun instancia same => ?_⟩
  cases same

/-- The network comes back: the handle becomes an error code, if it is not one already. -/
theorem trabado_gotIp {x : Externo} {e : Esp32} (perdido : Perdido e.web) (suerte : Suerte)
    : Trabado (e.paso x (.gotIp suerte)).web := by
  rw [Esp32.paso, Esp32.suceso]
  cases handle : e.web.server with
  | null =>
      have taken : e.web.paso (.gotIp suerte)
          = some { (e.web.startWebserver suerte).2 with
              server := (e.web.startWebserver suerte).1 } :=
        if_pos handle
      rw [taken]
      exact perdido.trabado suerte (e.web.startWebserver suerte).2.appMain
  | codigo err =>
      have taken : e.web.paso (.gotIp suerte) = some e.web :=
        if_neg fun null => by rw [handle] at null; cases null
      rw [taken]
      exact ⟨perdido, err, handle⟩
  | httpd instancia => exact absurd handle (perdido.server instancia)

/-- From the first drop of the network on, until the card restarts, its server is lost: no instance
runs, no request is answered, and once the network has come back the next drop restarts the card,
whatever else happens in between. Witness: the handle and the static pointer behind the drop.
-/
theorem caida_definitiva {x : Externo} {dev : Device} {eventos : List Evento} {e : Esp32}
    (reached : (firmware x).run (Esp32.arranque dev) eventos = some e) (marcha : e.web.EnMarcha)
    {mas : List Evento} {e' : Esp32}
    (corriendo : (firmware x).Along (fun e _ => e.web.serverData = true)
      (e.paso x .disconnected) mas)
    (later : (firmware x).run (e.paso x .disconnected) mas = some e')
    (on : e'.web.serverData = true)
    : e'.web.activos = []
      ∧ (∀ p, e'.paso x (.peticion p) = e')
      ∧ ∀ suerte luego e'',
        (firmware x).Along (fun e _ => e.web.serverData = true) (e'.paso x (.gotIp suerte)) luego
        → (firmware x).run (e'.paso x (.gotIp suerte)) luego = some e''
        → e''.web.serverData = true
        → e''.paso x .disconnected = e''.reinicio := by
  have unica : Unica e.web :=
    servidor_regla (fun _ _ => ⟨fun _ => rfl, Nat.zero_le 1⟩)
      (fun _ _ unica => ⟨unica.libre, unica.una⟩) (fun _ _ _ => unica_paso) reached
  have perdido : Perdido e'.web :=
    hasta_reinicio (fun _ _ perdido => ⟨perdido.datos, perdido.activos, perdido.server⟩)
      (fun _ _ _ perdido taken => (perdido.paso taken).1) (perdido_disconnected unica marcha)
      corriendo later on
  refine ⟨perdido.activos, fun p => if_pos perdido.activos, ?_⟩
  intro suerte luego e'' corriendo' later' on'
  have trabado : Trabado e''.web :=
    hasta_reinicio (fun _ _ trabado => ⟨⟨trabado.perdido.datos, trabado.perdido.activos,
        trabado.perdido.server⟩, trabado.codigo⟩)
      (fun _ _ _ trabado taken => (trabado.perdido.paso taken).2 trabado)
      (trabado_gotIp perdido suerte) corriendo' later' on'
  obtain ⟨err, handle⟩ := trabado.codigo
  have taken : e''.web.paso .disconnected = none := by
    simp only [Webserver.paso, handle]
  rw [Esp32.paso, Esp32.suceso, taken]

/-- Witness: a card in service loses its network, finds it again and loses it a second time. -/
theorem caida_definitiva_dos_caidas
    : ∃ e, (firmware sinCifrar).run (Esp32.arranque registrada)
          [.appMain none ⟨true, true⟩, .disconnected] = some e
        ∧ e.web.activos = []
        ∧ (e.paso sinCifrar (.gotIp ⟨true, true⟩)).paso sinCifrar .disconnected
          = (e.paso sinCifrar (.gotIp ⟨true, true⟩)).reinicio := by
  have loads : alArrancar ({ Esp32.arranque registrada with arrancado := true } : Esp32).nvs
      = some (loadKeysWithPortAssignedToRAM registrada.nvs) :=
    if_pos (by decide +kernel)
  let e := (Esp32.arranque registrada).appMain sinCifrar none ⟨true, true⟩
  have reached : (firmware sinCifrar).run (Esp32.arranque registrada) [.appMain none ⟨true, true⟩]
      = some e := rfl
  have marcha : e.web.EnMarcha ∧ e.web.serverData = true ∧ e.web.activos = [0] := by
    dsimp only [e]
    rw [Esp32.appMain]
    dsimp only
    rw [loads]
    exact ⟨⟨0, rfl, List.mem_singleton_self 0⟩, rfl, rfl⟩
  have perdido := perdido_disconnected (x := sinCifrar)
    ⟨fun off => absurd (marcha.2.1.symm.trans off) Bool.noConfusion, by rw [marcha.2.2]; rfl⟩ marcha.1
  have corriendo : (firmware sinCifrar).Along (fun e _ => e.web.serverData = true)
      (e.paso sinCifrar .disconnected) [] :=
    trivial
  obtain ⟨activos, -, segunda⟩ := caida_definitiva reached marcha.1 corriendo rfl perdido.datos
  exact ⟨_, rfl, activos, segunda ⟨true, true⟩ [] _ trivial rfl
    (trabado_gotIp perdido ⟨true, true⟩).perdido.datos⟩

end EspHttpControl.Firmware
