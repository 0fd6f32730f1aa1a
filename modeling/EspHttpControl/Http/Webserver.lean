import EspHttpControl.Http.Handlers

/-! Starting and stopping the local web server.
`start_webserver` keeps its allocation in a static variable and returns error codes through
the handle type; `app_main` and two event handlers share one handle. Each of them is one step.
-/

namespace EspHttpControl.Http

open CText Nvs Machines

/-- A value of type `httpd_handle_t`: NULL, an error code, or what `httpd_start` returned. -/
inductive Handle
  | null
  | codigo (err : Nat)
  | httpd (instancia : Nat)
deriving DecidableEq, Repr

/-- `ESP_ERR_INVALID_STATE` -/
def espErrInvalidState : Nat := 0x103

/-- `ESP_ERR_NO_MEM` -/
def espErrNoMem : Nat := 0x101

structure Webserver where
  dev : Device
  /-- The static `server_data` is not NULL. -/
  serverData : Bool
  server : Handle
  /-- The instances that `httpd_start` started and `httpd_stop` did not stop. -/
  activos : List Nat
  siguiente : Nat
  /-- `app_main` has made its call of `start_webserver`. -/
  appMain : Bool

def Webserver.arranque (dev : Device) : Webserver :=
  {
    dev := dev
    serverData := false
    server := .null
    activos := []
    siguiente := 0
    appMain := false
  }

/-- Whether the memory is there and whether `httpd_start` succeeds. -/
structure Suerte where
  calloc : Bool
  httpdStart : Bool
deriving DecidableEq, Repr

/-- `start_webserver`, with its result. -/
def Webserver.startWebserver (w : Webserver) (suerte : Suerte) : Handle × Webserver :=
  if w.serverData then (.codigo espErrInvalidState, w)
  else if !suerte.calloc then (.codigo espErrNoMem, w)
  else
    let cargado :=
      { w with
        serverData := true
        dev := { w.dev with tokenHttser := w.dev.leerNvs "5_TOK-HTTPSER" } }
    if suerte.httpdStart then
      (.httpd w.siguiente,
        { cargado with activos := w.siguiente :: w.activos, siguiente := w.siguiente + 1 })
    else (.null, cargado)

/-- What happens to the handle: the call of `app_main`, which comes once, and the two events. -/
inductive Suceso
  | appMain (suerte : Suerte)
  | disconnected
  | gotIp (suerte : Suerte)
deriving DecidableEq, Repr

/-- One step; `httpd_stop` on anything but a running instance is the end of the card. -/
def Webserver.paso (w : Webserver) : Suceso → Option Webserver
  | .appMain suerte =>
    if w.appMain then none
    else
      let (server, w) := w.startWebserver suerte
      some { w with server := server, appMain := true }
  | .disconnected =>
    match w.server with
    | .null => some w
    | .codigo _ => none
    | .httpd instancia =>
      if instancia ∈ w.activos then
        some { w with server := .null, activos := w.activos.filter (· ≠ instancia) }
      else none
  | .gotIp suerte =>
    if w.server = .null then
      let (server, w) := w.startWebserver suerte
      some { w with server := server }
    else some w

/-- The card over the calls and events that concern the server. -/
def wifi : Machine Webserver Suceso where
  step := Webserver.paso

/-- The handle is that of a running server. -/
def Webserver.EnMarcha (w : Webserver) : Prop :=
  ∃ instancia, w.server = .httpd instancia ∧ instancia ∈ w.activos

/-- The handle is NULL or that of a running server. -/
def Webserver.Sano (w : Webserver) : Prop := w.server = .null ∨ w.EnMarcha

/-- What should hold at every step: the handle is sound before and after it, a `GOT_IP` for
which `httpd_start` succeeds leaves a server running, and `httpd_stop` meets a running server.
-/
structure Sobrevive (w : Webserver) (suceso : Suceso) : Prop where
  antes : w.Sano
  despues : ∀ siguiente, w.paso suceso = some siguiente → siguiente.Sano
  conectado : ∀ suerte siguiente, suceso = .gotIp suerte → suerte.httpdStart = true →
    w.paso suceso = some siguiente → siguiente.EnMarcha
  parado : suceso = .disconnected → w.server ≠ .null → w.EnMarcha

/-- Every call of `start_webserver` finds its static pointer NULL and its memory. -/
def PrimerArranque (w : Webserver) (suceso : Suceso) : Prop :=
  match suceso with
  | .appMain suerte => w.appMain = false → w.serverData = false ∧ suerte.calloc = true
  | .gotIp suerte => w.server = .null → w.serverData = false ∧ suerte.calloc = true
  | .disconnected => True

/-- A step leaves the device, but for the token that `start_webserver` loads; by the step. -/
theorem paso_dev {w w' : Webserver} {suceso : Suceso} (h : w.paso suceso = some w')
    : ∃ token, w'.dev = { w.dev with tokenHttser := token } := by
  have started (suerte : Suerte)
      : ∃ token, (w.startWebserver suerte).2.dev = { w.dev with tokenHttser := token } := by
    rw [Webserver.startWebserver]
    split
    · exact ⟨w.dev.tokenHttser, rfl⟩
    · split
      · exact ⟨w.dev.tokenHttser, rfl⟩
      · split
        · exact ⟨_, rfl⟩
        · exact ⟨_, rfl⟩
  cases suceso with
  | appMain suerte =>
      simp only [Webserver.paso] at h
      split at h
      · cases h
      · obtain rfl := Option.some.inj h
        exact started suerte
  | disconnected =>
      simp only [Webserver.paso] at h
      split at h
      · obtain rfl := Option.some.inj h
        exact ⟨w.dev.tokenHttser, rfl⟩
      · cases h
      · split at h
        · obtain rfl := Option.some.inj h
          exact ⟨w.dev.tokenHttser, rfl⟩
        · cases h
  | gotIp suerte =>
      simp only [Webserver.paso] at h
      split at h
      · obtain rfl := Option.some.inj h
        exact started suerte
      · obtain rfl := Option.some.inj h
        exact ⟨w.dev.tokenHttser, rfl⟩

/-- A first call returns NULL or a running server, and the latter whenever `httpd_start`
succeeds.
-/
theorem startWebserver_primero {w : Webserver} {suerte : Suerte} (libre : w.serverData = false)
    (memoria : suerte.calloc = true)
    : (suerte.httpdStart = true ∧ (w.startWebserver suerte).1 = .httpd w.siguiente
        ∧ w.siguiente ∈ (w.startWebserver suerte).2.activos)
      ∨ (suerte.httpdStart = false ∧ (w.startWebserver suerte).1 = .null) := by
  cases started : suerte.httpdStart with
  | true => exact Or.inl ⟨rfl, by simp [Webserver.startWebserver, libre, memoria, started]⟩
  | false => exact Or.inr ⟨rfl, by simp [Webserver.startWebserver, libre, memoria, started]⟩

/-- Any other call returns an error code in the place of a handle. -/
theorem startWebserver_codigo {w : Webserver} {suerte : Suerte}
    (tarde : ¬(w.serverData = false ∧ suerte.calloc = true))
    : ∃ err, (w.startWebserver suerte).1 = .codigo err := by
  rw [Webserver.startWebserver]
  split
  · exact ⟨_, rfl⟩
  · rename_i libre
    have falta : (!suerte.calloc) = true := by
      by_contra memoria
      exact tarde ⟨by simpa using libre, by simpa using memoria⟩
    rw [if_pos falta]
    exact ⟨_, rfl⟩

/-- The state with the result of the call as its handle is sound exactly after a first call. -/
theorem sano_startWebserver {w : Webserver} {suerte : Suerte} (appMain : Bool)
    : ({ (w.startWebserver suerte).2 with
          server := (w.startWebserver suerte).1
          appMain := appMain } : Webserver).Sano
      ↔ w.serverData = false ∧ suerte.calloc = true := by
  constructor
  · intro sano
    by_contra tarde
    obtain ⟨err, result⟩ := startWebserver_codigo tarde
    rcases sano with null | ⟨instancia, handle, -⟩
    · simp [result] at null
    · simp [result] at handle
  · intro holds
    rcases holds with ⟨libre, memoria⟩
    rcases startWebserver_primero libre memoria with ⟨-, handle, running⟩ | ⟨-, null⟩
    · exact Or.inr ⟨w.siguiente, handle, running⟩
    · exact Or.inl null

/-- From a sound handle a step is as it should be exactly when its call of `start_webserver`,
if it makes one, is a first call. Witness: the cases of the step.
-/
theorem sobrevive_iff {w : Webserver} (sano : w.Sano) (suceso : Suceso)
    : Sobrevive w suceso ↔ PrimerArranque w suceso := by
  have marcha : w.server ≠ .null → w.EnMarcha := fun set => sano.resolve_left set
  cases suceso with
  | appMain suerte =>
      constructor
      · intro sobrevive pendiente
        refine (sano_startWebserver true).mp (sobrevive.despues _ ?_)
        simp [Webserver.paso, pendiente]
      · intro primero
        refine ⟨sano, fun siguiente taken => ?_, by simp, by simp⟩
        simp only [Webserver.paso] at taken
        split at taken
        · cases taken
        · rename_i pendiente
          obtain rfl := Option.some.inj taken
          exact (sano_startWebserver true).mpr (primero (by simpa using pendiente))
  | disconnected =>
      refine ⟨fun _ => trivial, fun _ => ⟨sano, fun siguiente taken => ?_, by simp,
        fun _ => marcha⟩⟩
      simp only [Webserver.paso] at taken
      split at taken
      · obtain rfl := Option.some.inj taken
        exact sano
      · cases taken
      · split at taken
        · obtain rfl := Option.some.inj taken
          exact Or.inl rfl
        · cases taken
  | gotIp suerte =>
      by_cases null : w.server = .null
      · have taken : w.paso (.gotIp suerte)
            = some { (w.startWebserver suerte).2 with server := (w.startWebserver suerte).1 } := by
          simp [Webserver.paso, null]
        constructor
        · intro sobrevive _
          exact (sano_startWebserver (w.startWebserver suerte).2.appMain).mp
            (sobrevive.despues _ taken)
        · intro primero
          obtain ⟨libre, memoria⟩ := primero null
          refine ⟨sano, fun siguiente h => ?_, fun otra siguiente same started h => ?_, by simp⟩
          · obtain rfl := Option.some.inj (taken.symm.trans h)
            exact (sano_startWebserver (w.startWebserver suerte).2.appMain).mpr ⟨libre, memoria⟩
          · obtain rfl := Suceso.gotIp.inj same
            obtain rfl := Option.some.inj (taken.symm.trans h)
            rcases startWebserver_primero libre memoria with ⟨-, handle, running⟩ | ⟨failed, -⟩
            · exact ⟨w.siguiente, handle, running⟩
            · rw [started] at failed
              cases failed
      · have taken : w.paso (.gotIp suerte) = some w := by
          simp [Webserver.paso, null]
        refine ⟨fun _ free => absurd free null, fun _ => ⟨sano, ?_, ?_, by simp⟩⟩
        · intro siguiente h
          exact Option.some.inj (taken.symm.trans h) ▸ sano
        · intro _ siguiente _ _ h
          exact Option.some.inj (taken.symm.trans h) ▸ marcha null

/-- From boot, the handle is sound and the server is there after every `GOT_IP` exactly in the
runs in which `start_webserver` is never called a second time and never lacks memory. Witness:
`sobrevive_iff` along the run, with the sound handle as invariant.
-/
theorem wifi_sobrevive_iff (dev : Device) (sucesos : List Suceso)
    : wifi.Along Sobrevive (Webserver.arranque dev) sucesos
      ↔ wifi.Along PrimerArranque (Webserver.arranque dev) sucesos :=
  Machine.along_congr (fun _ suceso sano => sobrevive_iff sano suceso)
    (fun _ _ siguiente _ sobrevive taken => sobrevive.despues siguiente taken) (Or.inl rfl)

/-- One drop of the network: the second start leaves an error code in the handle. -/
theorem wifi_no_sobrevive
    : ¬∀ (dev : Device) (sucesos : List Suceso),
        wifi.Along Sobrevive (Webserver.arranque dev) sucesos := by
  intro all
  have run := all .nueva [.appMain ⟨true, true⟩, .disconnected, .gotIp ⟨true, true⟩]
  have reconexion := Machine.along_iff.mp run [.appMain ⟨true, true⟩, .disconnected]
    (.gotIp ⟨true, true⟩) [] rfl _ rfl
  obtain ⟨_, handle, -⟩ := reconexion.conectado ⟨true, true⟩ _ rfl rfl rfl
  cases handle

end EspHttpControl.Http
