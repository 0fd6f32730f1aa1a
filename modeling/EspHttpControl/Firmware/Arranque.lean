import EspHttpControl.Firmware.Ahsn

/-! The boot of the card step by step, with the network events and the requests in between.
`app_main` erases the storage of a card that is not registered, asks the STM, and writes the
identity and the initial values one after another; the two network handlers are registered before.
The writes since the last erase stand beside the state, for the proofs only.
-/

namespace EspHttpControl.Firmware

open CText Nvs Machines Http

/-- How far `app_main` is behind the registration of the events. -/
inductive Fase
  | inicio
  /-- The storage is erased and the STM is asked. -/
  | borrado
  /-- A write comes next and others behind it; with `exito` they end a successful exchange. -/
  | guarda (escritura : Escritura) (pendientes : List Escritura) (exito : Bool)
  /-- The call of `start_webserver` comes next. -/
  | arranca
  /-- `app_main` has ended, with `exito` behind a call of `start_webserver`. -/
  | fin (exito : Bool)
deriving DecidableEq, Repr

/-- The phase in front of the given writes. -/
def Fase.tras : List Escritura → Bool → Fase
  | escritura :: pendientes, exito => .guarda escritura pendientes exito
  | [], true => .arranca
  | [], false => .fin false

structure Placa where
  web : Webserver
  fase : Fase
  /-- The writes since the last erase, if there was one. -/
  desde : Option (List Escritura)

/-- What happens to the card: a power failure comes at any time, in a request behind some of its
writes; an event or a request comes between any two steps of `app_main`.
-/
inductive PasoPlaca
  | reinicio
  /-- The next step of `app_main`, with the answer of the STM and the luck of the start. -/
  | avanza (respuesta : Option (List Char)) (suerte : Suerte)
  | disconnected
  | gotIp (suerte : Suerte)
  | peticion (p : Peticion)
  | apagon (p : Peticion) (k : Nat)

/-- The writes of `request_and_store_ahsn` with those of `valores_iniciales` behind a success, and
whether it is one; none if it uses the NULL token.
-/
def escriturasAhsn (x : Externo) (mac : Vector UInt8 6) (respuesta : Option (List Char))
    : Option (List Escritura × Bool) :=
  let cleanup := some ([("7_STATUS-MATR", "0".toList)], false)
  match respuesta with
  | none => cleanup
  | some data =>
    if ¬ConLetras (cstr data) then cleanup
    else if idDe (cstr data) = [] then none
    else if (idDe (cstr data)).length ≠ 16 then cleanup
    else some (entradas x (serialDe mac (idDe (cstr data))) ++ entradasIniciales, true)

namespace Placa

/-- A card that is switched on; nothing is known of the last erase of its storage. -/
def arranque (dev : Device) : Placa := ⟨Webserver.arranque dev, .inicio, none⟩

def nvs (s : Placa) : Almacen := s.web.dev.nvs

def conNvs (s : Placa) (nvs : Almacen) : Placa :=
  { s with web := { s.web with dev := { s.web.dev with nvs := nvs } } }

def reinicio (s : Placa) : Placa := { s with web := s.web.reinicio s.nvs, fase := .inicio }

/-- `nvs_flash_erase` -/
def borra (s : Placa) : Placa := { s.conNvs .empty with fase := .borrado, desde := some [] }

def escribe (s : Placa) (escrituras : List Escritura) : Placa :=
  { s.conNvs (s.nvs.writeAll escrituras) with desde := s.desde.map (· ++ escrituras) }

/-- A call or an event of the server; one that cannot go on restarts the card. -/
def suceso (s : Placa) (suceso : Suceso) (fase : Fase) : Placa :=
  match s.web.paso suceso with
  | some web => { s with web := web, fase := fase }
  | none => s.reinicio

/-- The next step of `app_main`. -/
def avanza (x : Externo) (s : Placa) (respuesta : Option (List Char)) (suerte : Suerte) : Placa :=
  match s.fase with
  | .inicio =>
    match alArrancar s.nvs with
    | some _ => { s with fase := .arranca }
    | none => s.borra
  | .borrado =>
    match escriturasAhsn x s.web.dev.mac respuesta with
    | some (escrituras, exito) => { s with fase := .tras escrituras exito }
    | none => s.reinicio
  | .guarda escritura pendientes exito =>
    { s.escribe [escritura] with fase := .tras pendientes exito }
  | .arranca => s.suceso (.appMain suerte) (.fin true)
  | .fin _ => s

/-- A request to the server, if one is running. -/
def atiende (x : Externo) (s : Placa) (p : Peticion) : Placa :=
  if s.web.activos = [] then s
  else
    {
      web := s.web.atiende x.parse p
      fase :=
        match (servir x.parse s.web.dev p).fin with
        | .restart => .inicio
        | .nullPointer => .inicio
        | _ => s.fase
      desde := s.desde.map (· ++ p.escrituras x.parse s.web.dev)
    }

/-- A request that the power failure cuts short. -/
def apagon (x : Externo) (s : Placa) (p : Peticion) (k : Nat) : Placa :=
  if s.web.activos = [] then s.reinicio
  else (s.escribe ((p.escrituras x.parse s.web.dev).take k)).reinicio

def paso (x : Externo) (s : Placa) : PasoPlaca → Placa
  | .reinicio => s.reinicio
  | .avanza respuesta suerte => s.avanza x respuesta suerte
  | .disconnected => s.suceso .disconnected s.fase
  | .gotIp suerte => s.suceso (.gotIp suerte) s.fase
  | .peticion p => s.atiende x p
  | .apagon p k => s.apagon x p k

end Placa

/-- The card with the steps of its `app_main`. -/
def placa (x : Externo) : Machine Placa PasoPlaca where
  step s paso := some (s.paso x paso)

-----------------------------------------------------------------------------------------
-- The steps of `app_main` together
-----------------------------------------------------------------------------------------

/-- The writes of the exchange are what it does to the storage. -/
theorem requestAndStoreAhsn_escrituras (x : Externo) (mac : Vector UInt8 6)
    (respuesta : Option (List Char)) (nvs : Almacen)
    : match escriturasAhsn x mac respuesta with
      | none => requestAndStoreAhsn x mac respuesta nvs = (nvs, .nullPointer)
      | some (escrituras, true) =>
        ∃ previo, requestAndStoreAhsn x mac respuesta nvs = (previo, .ok)
          ∧ valoresIniciales previo = nvs.writeAll escrituras
      | some (escrituras, false) =>
        requestAndStoreAhsn x mac respuesta nvs = (nvs.writeAll escrituras, .fail) := by
  cases respuesta with
  | none => rfl
  | some data =>
      rw [requestAndStoreAhsn_data, escriturasAhsn]
      by_cases letras : ConLetras (cstr data)
      · rw [if_neg (not_not.mpr letras), if_neg (not_not.mpr letras)]
        by_cases none' : idDe (cstr data) = []
        · rw [if_pos none', if_pos none']
        · rw [if_neg none', if_neg none']
          by_cases other : (idDe (cstr data)).length ≠ 16
          · rw [if_pos other, if_pos other]
            rfl
          · rw [if_neg other, if_neg other]
            refine ⟨_, rfl, ?_⟩
            rw [valoresIniciales, Registers.Store.writeAll_append]
      · rw [if_pos letras, if_pos letras]
        rfl

namespace Placa

variable {x : Externo} {s : Placa}

theorem avanza_registrada {ram : KeysRam} (fase : s.fase = .inicio)
    (loads : alArrancar s.nvs = some ram) (respuesta : Option (List Char)) (suerte : Suerte)
    : s.avanza x respuesta suerte = { s with fase := .arranca } := by
  rw [avanza, fase]
  dsimp only
  rw [loads]

theorem avanza_borra (fase : s.fase = .inicio) (loads : alArrancar s.nvs = none)
    (respuesta : Option (List Char)) (suerte : Suerte)
    : s.avanza x respuesta suerte = s.borra := by
  rw [avanza, fase]
  dsimp only
  rw [loads]

theorem avanza_reinicia {respuesta : Option (List Char)} (fase : s.fase = .borrado)
    (outcome : escriturasAhsn x s.web.dev.mac respuesta = none) (suerte : Suerte)
    : s.avanza x respuesta suerte = s.reinicio := by
  rw [avanza, fase]
  dsimp only
  rw [outcome]

theorem avanza_pide {respuesta : Option (List Char)} {escrituras : List Escritura} {exito : Bool}
    (fase : s.fase = .borrado)
    (outcome : escriturasAhsn x s.web.dev.mac respuesta = some (escrituras, exito))
    (suerte : Suerte)
    : s.avanza x respuesta suerte = { s with fase := .tras escrituras exito } := by
  rw [avanza, fase]
  dsimp only
  rw [outcome]

theorem avanza_guarda {escritura : Escritura} {pendientes : List Escritura} {exito : Bool}
    (fase : s.fase = .guarda escritura pendientes exito) (respuesta : Option (List Char))
    (suerte : Suerte)
    : s.avanza x respuesta suerte
      = { s.escribe [escritura] with fase := .tras pendientes exito } := by
  rw [avanza, fase]

theorem avanza_arranca (fase : s.fase = .arranca) (respuesta : Option (List Char))
    (suerte : Suerte)
    : s.avanza x respuesta suerte = s.suceso (.appMain suerte) (.fin true) := by
  rw [avanza, fase]

/-- What a step of `app_main` does, by its phase. -/
inductive Avanza (x : Externo) (respuesta : Option (List Char)) (suerte : Suerte) (s : Placa)
    : Placa → Prop
  | registrada (fase : s.fase = .inicio) (marca : s.nvs.get "7_STATUS-MATR" = some ['1'])
    : Avanza x respuesta suerte s { s with fase := .arranca }
  | borra (fase : s.fase = .inicio) (sinMarca : s.nvs.get "7_STATUS-MATR" ≠ some ['1'])
    : Avanza x respuesta suerte s s.borra
  | reinicia (fase : s.fase = .borrado)
    (outcome : escriturasAhsn x s.web.dev.mac respuesta = none)
    : Avanza x respuesta suerte s s.reinicio
  | pide {escrituras : List Escritura} {exito : Bool} (fase : s.fase = .borrado)
    (outcome : escriturasAhsn x s.web.dev.mac respuesta = some (escrituras, exito))
    : Avanza x respuesta suerte s { s with fase := .tras escrituras exito }
  | guarda {escritura : Escritura} {pendientes : List Escritura} {exito : Bool}
    (fase : s.fase = .guarda escritura pendientes exito)
    : Avanza x respuesta suerte s { s.escribe [escritura] with fase := .tras pendientes exito }
  | arranca (fase : s.fase = .arranca)
    : Avanza x respuesta suerte s (s.suceso (.appMain suerte) (.fin true))
  | acabada {exito : Bool} (fase : s.fase = .fin exito) : Avanza x respuesta suerte s s

theorem avanza_cases (x : Externo) (s : Placa) (respuesta : Option (List Char)) (suerte : Suerte)
    : Avanza x respuesta suerte s (s.avanza x respuesta suerte) := by
  cases fase : s.fase with
  | inicio =>
      cases loads : alArrancar s.nvs with
      | some ram =>
          rw [avanza_registrada fase loads]
          exact .registrada fase (alArrancar_ne_none.mp (loads ▸ Option.some_ne_none ram))
      | none =>
          rw [avanza_borra fase loads]
          exact .borra fase fun marca => alArrancar_ne_none.mpr marca loads
  | borrado =>
      rcases outcome : escriturasAhsn x s.web.dev.mac respuesta with _ | ⟨escrituras, exito⟩
      · rw [avanza_reinicia fase outcome]
        exact .reinicia fase outcome
      · rw [avanza_pide fase outcome]
        exact .pide fase outcome
  | guarda escritura pendientes exito =>
      rw [avanza_guarda fase]
      exact .guarda fase
  | arranca =>
      rw [avanza_arranca fase]
      exact .arranca fase
  | fin exito =>
      have same : s.avanza x respuesta suerte = s := by
        rw [Placa.avanza, fase]
      rw [same]
      exact .acabada fase

theorem run_avanza (respuesta : Option (List Char)) (suerte : Suerte) (n : Nat)
    : (placa x).run s (List.replicate (n + 1) (.avanza respuesta suerte))
      = (placa x).run (s.avanza x respuesta suerte)
          (List.replicate n (.avanza respuesta suerte)) :=
  rfl

@[simp]
theorem escribe_nil (s : Placa) : s.escribe [] = s := by
  cases s with
  | mk web fase desde => cases desde <;> simp [escribe, conNvs, nvs]

theorem escribe_cons (s : Placa) (escritura : Escritura) (pendientes : List Escritura)
    : (s.escribe [escritura]).escribe pendientes = s.escribe (escritura :: pendientes) := by
  cases s with
  | mk web fase desde => cases desde <;> simp [escribe, conNvs, nvs]

/-- The writes are made one after another, by induction on them. -/
theorem run_guarda (x : Externo) (respuesta : Option (List Char)) (suerte : Suerte)
    {escrituras : List Escritura} {exito : Bool} (start : s.fase = .tras escrituras exito)
    : (placa x).run s (List.replicate escrituras.length (.avanza respuesta suerte))
      = some { s.escribe escrituras with fase := .tras [] exito } := by
  induction escrituras generalizing s with
  | nil =>
      rw [escribe_nil, ← start]
      rfl
  | cons escritura pendientes ih =>
      have later := ih (s := { s.escribe [escritura] with fase := .tras pendientes exito }) rfl
      rw [List.length_cons, run_avanza, avanza_guarda start, later]
      exact congrArg (fun s => some { s with fase := Fase.tras [] exito })
        (escribe_cons s escritura pendientes)

/-- Behind an answer that can be used its writes are made. -/
theorem run_pide {respuesta : Option (List Char)} {escrituras : List Escritura} {exito : Bool}
    (fase : s.fase = .borrado)
    (outcome : escriturasAhsn x s.web.dev.mac respuesta = some (escrituras, exito))
    (suerte : Suerte) (n : Nat)
    : (placa x).run s (List.replicate (escrituras.length + n + 1) (.avanza respuesta suerte))
      = (placa x).run { s.escribe escrituras with fase := .tras [] exito }
          (List.replicate n (.avanza respuesta suerte)) := by
  have stored := run_guarda x respuesta suerte
    (s := { s with fase := .tras escrituras exito }) rfl
  rw [run_avanza, avanza_pide fase outcome, List.replicate_add, Machine.run_append, stored]
  rfl

theorem web_suceso {e : Esp32} (same : s.web = e.web) (suceso : Suceso) (fase : Fase)
    : (s.suceso suceso fase).web = (e.suceso suceso).web := by
  rw [Placa.suceso, Esp32.suceso, same]
  cases e.web.paso suceso with
  | some web => rfl
  | none => rw [Placa.reinicio, Esp32.reinicio, Placa.nvs, Esp32.nvs, same]

end Placa

/-- With nothing but its own steps between them, `app_main` does what it does in one step of the
whole card, by the outcome of the exchange.
-/
theorem run_appMain (x : Externo) (e : Esp32) (desde : Option (List Escritura))
    (respuesta : Option (List Char)) (suerte : Suerte)
    : ∃ n s,
        (placa x).run ⟨e.web, .inicio, desde⟩ (List.replicate n (.avanza respuesta suerte)) = some s
        ∧ s.web = (e.appMain x respuesta suerte).web := by
  rw [Esp32.appMain]
  dsimp only
  cases loads : alArrancar e.web.dev.nvs with
  | some ram =>
      have found : alArrancar ({ e with arrancado := true } : Esp32).nvs = some ram := loads
      rw [found]
      refine ⟨2, Placa.suceso ⟨e.web, .arranca, desde⟩ (.appMain suerte) (.fin true), ?_, ?_⟩
      · rw [Placa.run_avanza,
          Placa.avanza_registrada (s := ⟨e.web, .inicio, desde⟩) rfl loads respuesta suerte]
        rfl
      · exact Placa.web_suceso rfl _ _
  | none =>
      have missing : alArrancar ({ e with arrancado := true } : Esp32).nvs = none := loads
      rw [missing]
      have exchange := requestAndStoreAhsn_escrituras x e.web.dev.mac respuesta .empty
      -- the erased card, as the steps behind the erase see it
      obtain ⟨borrada, erased, fase, mac, web⟩
          : ∃ borrada : Placa,
              Placa.avanza x ⟨e.web, .inicio, desde⟩ respuesta suerte = borrada
              ∧ borrada.fase = .borrado
              ∧ borrada.web.dev.mac = e.web.dev.mac
              ∧ borrada.web = (e.conNvs .empty).web :=
        ⟨_, Placa.avanza_borra (s := ⟨e.web, .inicio, desde⟩) rfl loads respuesta suerte, rfl, rfl,
          rfl⟩
      rcases outcome : escriturasAhsn x e.web.dev.mac respuesta with _ | ⟨escrituras, exito⟩
      · rw [outcome] at exchange
        rw [← mac] at outcome
        refine ⟨2, borrada.reinicio, ?_, ?_⟩
        · rw [Placa.run_avanza, erased, Placa.run_avanza, Placa.avanza_reinicia fase outcome]
          rfl
        · rw [exchange, Placa.reinicio, Placa.nvs, web]
          rfl
      · rw [outcome] at exchange
        rw [← mac] at outcome
        have written := Placa.run_pide fase outcome suerte
        have same : (borrada.escribe escrituras).web
            = (({ e with arrancado := true } : Esp32).conNvs
                (Registers.Store.empty.writeAll escrituras)).web := by
          rw [Placa.escribe, Placa.conNvs, Placa.nvs, web]
          rfl
        cases exito with
        | false =>
            refine ⟨escrituras.length + 2, { borrada.escribe escrituras with fase := .fin false },
              ?_, ?_⟩
            · rw [Placa.run_avanza, erased]
              exact written 0
            · rw [exchange]
              exact same
        | true =>
            obtain ⟨previo, exchange, initial⟩ := exchange
            refine ⟨escrituras.length + 3,
              ({ borrada.escribe escrituras with fase := .arranca } : Placa).suceso
                (.appMain suerte) (.fin true),
              ?_, ?_⟩
            · rw [Placa.run_avanza, erased]
              exact written 1
            · rw [exchange]
              dsimp only
              rw [initial]
              exact Placa.web_suceso same (.appMain suerte) (.fin true)

end EspHttpControl.Firmware
