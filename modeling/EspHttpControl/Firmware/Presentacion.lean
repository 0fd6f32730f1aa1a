import EspHttpControl.Firmware.Arranque
import EspHttpControl.Firmware.Credencial
import EspHttpControl.Firmware.Serie

/-! The login of a card shows who it is. `http_rest_with_url` sends the encoded serial that the last
boot without registration stored, and nothing else writes it.
-/

namespace EspHttpControl.Firmware

open CText Nvs Machines Http

/-- The number of the STM, if its answer is one that `request_and_store_ahsn` can use. -/
def aceptada (respuesta : Option (List Char)) : Option Str :=
  respuesta.bind fun data =>
    if ConLetras (cstr data) ∧ (idDe (cstr data)).length = 16 then some (idDe (cstr data)) else none

/-- Whose identity is stored: that of the beginning, none since an answer was refused, or that of a
number of the STM.
-/
inductive Carnet
  | original
  | vacio
  | numero (id : Str)
deriving DecidableEq, Repr

/-- The entry of an identity. -/
def Carnet.entrada (x : Externo) (dev : Device) (registro : String) : Carnet → Option Str
  | .original => dev.nvs.get registro
  | .vacio => none
  | .numero id => (entradas x (serialDe dev.mac id)).lookup registro

/-- The note of an event: a boot that erases the storage puts another identity there. -/
def Carnet.tras (e : Esp32) (c : Carnet) (evento : Evento) : Carnet :=
  match evento with
  | .appMain respuesta _ =>
    if borra e evento then (aceptada respuesta).elim .vacio .numero else c
  | _ => c

/-- The card is that of the note. -/
structure Acredita (x : Externo) (dev : Device) (e : Esp32) (c : Carnet) : Prop where
  mac : e.web.dev.mac = dev.mac
  entradas : ∀ registro ∈ registrosIdentidad, e.nvs.get registro = c.entrada x dev registro

-----------------------------------------------------------------------------------------
-- The address of the card
-----------------------------------------------------------------------------------------

theorem mac_suceso (e : Esp32) (suceso : Suceso)
    : (e.suceso suceso).web.dev.mac = e.web.dev.mac := by
  rcases e.suceso_cases suceso with ⟨web, taken, same⟩ | same
  · obtain ⟨token, dev⟩ := paso_dev taken
    rw [same]
    dsimp only
    rw [dev]
  · rw [same]
    rfl

theorem mac_servir (parse : Str → Option Json) (d : Device) (p : Peticion)
    : (servir parse d p).dev.mac = d.mac :=
  @servir_regla (fun d' => d'.mac = d.mac) (fun _ _ _ same => same) (fun _ same => same)
    (fun _ _ same => same) parse _ rfl p

theorem mac_appMain (x : Externo) (e : Esp32) (respuesta : Option (List Char)) (suerte : Suerte)
    : (e.appMain x respuesta suerte).web.dev.mac = e.web.dev.mac := by
  have arranca := e.appMain_cases x respuesta suerte
  generalize e.appMain x respuesta suerte = e' at arranca ⊢
  cases arranca with
  | tareas loads => exact mac_suceso _ _
  | identidad nueva asked => exact mac_suceso _ _
  | rehusada nueva asked => rfl
  | reinicia nueva asked => rfl

theorem mac_httpRestWithUrl (x : Externo) (e : Esp32) (login trama : Client.Intento)
    : (e.httpRestWithUrl x login trama).web.dev.mac = e.web.dev.mac := by
  rw [Esp32.httpRestWithUrl]
  split
  · rfl
  · split
    · split <;> rfl
    · rfl

/-- No event changes the address, by the event. -/
theorem mac_paso (x : Externo) (e : Esp32) (evento : Evento)
    : (e.paso x evento).web.dev.mac = e.web.dev.mac := by
  cases evento with
  | reinicio => rfl
  | appMain respuesta suerte =>
      rw [Esp32.paso]
      split
      · rfl
      · exact mac_appMain x e respuesta suerte
  | disconnected => exact mac_suceso e .disconnected
  | gotIp suerte => exact mac_suceso e (.gotIp suerte)
  | uart temperatura digitalInput analogico fuera =>
      rw [Esp32.paso]
      split
      · rcases e.uart_cases x ⟨temperatura, digitalInput, analogico, e.nvs, fuera⟩
          with ⟨txTask, reconstruido, -, same⟩ | ⟨-, same⟩
        · rw [same]
          rfl
        · rw [same]
          rfl
      · rfl
  | login login trama =>
      rw [Esp32.paso]
      split
      · exact mac_httpRestWithUrl x e login trama
      · rfl
  | peticion p =>
      rw [Esp32.paso]
      rcases e.atiende_cases x p with ⟨-, same⟩ | same | same
      · rw [same]
      · rw [same]
        exact mac_servir x.parse e.web.dev p
      · rw [same]
        exact mac_servir x.parse e.web.dev p
  | apagon p k =>
      rw [Esp32.paso]
      rcases e.apagon_cases x p k with same | same
      · rw [same]
        rfl
      · rw [same]
        rfl

-----------------------------------------------------------------------------------------
-- The identity in the storage
-----------------------------------------------------------------------------------------

theorem ajeno_identidad {registro : String} (known : registro ∈ registrosIdentidad) : Ajeno registro where
  endpoints E := escribe_identidad E registro known
  version := by
    have ajenos : ∀ registro ∈ registrosIdentidad,
        registro ≠ "8_MACADRRWIFI" ∧ registro ≠ "2_WiFi-AP-SSID" := by
      decide
    exact ajenos registro known

/-- The entries that a number of the STM leads to are found under the names of the identity. -/
theorem get_identidad (x : Externo) (dev : Device) (id : Str) (nvs : Almacen) {registro : String}
    (known : registro ∈ registrosIdentidad)
    : (nvs.writeAll (entradas x (serialDe dev.mac id))).get registro
      = (Carnet.numero id).entrada x dev registro := by
  have written := get_entradas x (serialDe dev.mac id) nvs
  have all : registro = "7_USER_ID" ∨ registro = "7_AHSN_BASE64" ∨ registro = "7_SERIAL_ID" := by
    simpa [registrosIdentidad] using known
  rcases all with rfl | rfl | rfl
  · exact written _ (List.mem_cons_of_mem _ List.mem_cons_self)
  · exact written _ (List.mem_cons_of_mem _ (List.mem_cons_of_mem _ List.mem_cons_self))
  · exact written _ List.mem_cons_self

/-- The exchange with the STM on the erased storage, by its answer. -/
theorem requestAndStoreAhsn_carnet {x : Externo} {dev : Device} {respuesta : Option (List Char)}
    {nvs : Almacen} {fin : Fin}
    (asked : requestAndStoreAhsn x dev.mac respuesta .empty = (nvs, fin))
    : ∀ registro ∈ registrosIdentidad,
        nvs.get registro
          = ((aceptada respuesta).elim Carnet.vacio Carnet.numero).entrada x dev registro := by
  have limpia : ∀ registro ∈ registrosIdentidad,
      (writexNvs .empty "7_STATUS-MATR" "0".toList).get registro = none := by
    decide +kernel
  cases respuesta with
  | none =>
      obtain ⟨rfl, rfl⟩ := Prod.mk.inj asked
      exact limpia
  | some data =>
      rw [requestAndStoreAhsn_data] at asked
      split at asked
      · next sin =>
        obtain ⟨rfl, rfl⟩ := Prod.mk.inj asked
        have none' : aceptada (some data) = none := if_neg fun both => sin both.1
        rw [none']
        exact limpia
      · next letras =>
        split at asked
        · next empty' =>
          obtain ⟨rfl, rfl⟩ := Prod.mk.inj asked
          have none' : aceptada (some data) = none := if_neg fun both => by simp [empty'] at both
          rw [none']
          exact fun _ _ => rfl
        · split at asked
          · next other =>
            obtain ⟨rfl, rfl⟩ := Prod.mk.inj asked
            have none' : aceptada (some data) = none := if_neg fun both => other both.2
            rw [none']
            exact limpia
          · next dieciseis =>
            obtain ⟨rfl, rfl⟩ := Prod.mk.inj asked
            have some' : aceptada (some data) = some (idDe (cstr data)) :=
              if_pos ⟨not_not.mp letras, not_not.mp dieciseis⟩
            rw [some']
            exact fun registro known => get_identidad x dev _ .empty known

/-- The boot of a card that is not registered, by what `app_main` does. -/
theorem appMain_carnet {x : Externo} {dev : Device} {e : Esp32}
    (nueva : e.nvs.get "7_STATUS-MATR" ≠ some ['1']) (mac : e.web.dev.mac = dev.mac)
    (respuesta : Option (List Char)) (suerte : Suerte)
    : ∀ registro ∈ registrosIdentidad, (e.appMain x respuesta suerte).nvs.get registro
      = ((aceptada respuesta).elim Carnet.vacio Carnet.numero).entrada x dev registro := by
  intro registro known
  have arranca := e.appMain_cases x respuesta suerte
  generalize e.appMain x respuesta suerte = e' at arranca ⊢
  cases arranca with
  | tareas loads => exact absurd (alArrancar_ne_none.mp (loads ▸ Option.some_ne_none _)) nueva
  | identidad _ asked =>
      rw [mac] at asked
      have iniciales : ∀ registro ∈ registrosIdentidad,
          ∀ escritura ∈ entradasIniciales, escritura.1 ≠ registro := by
        decide
      rw [nvs_suceso, ← requestAndStoreAhsn_carnet asked registro known, valoresIniciales]
      exact get_writeAll_ajeno (iniciales registro known)
  | rehusada _ asked =>
      rw [mac] at asked
      exact requestAndStoreAhsn_carnet asked registro known
  | reinicia _ asked =>
      rw [mac] at asked
      exact requestAndStoreAhsn_carnet asked registro known

-----------------------------------------------------------------------------------------
-- The steps
-----------------------------------------------------------------------------------------

/-- An event that leaves the entries of the identity, and so the note. -/
theorem Acredita.conserva {x : Externo} {dev : Device} {e e' : Esp32} {c : Carnet}
    (acredita : Acredita x dev e c) (mac : e'.web.dev.mac = e.web.dev.mac)
    (same : ∀ registro ∈ registrosIdentidad, e'.nvs.get registro = e.nvs.get registro)
    : Acredita x dev e' c :=
  ⟨mac.trans acredita.mac, fun registro known =>
    (same registro known).trans (acredita.entradas registro known)⟩

/-- One event, by the event. -/
theorem Acredita.paso {x : Externo} {dev : Device} {e : Esp32} {c : Carnet}
    (acredita : Acredita x dev e c) (evento : Evento)
    : Acredita x dev (e.paso x evento) (c.tras e evento) := by
  have mac := mac_paso x e evento
  cases evento with
  | reinicio => exact acredita.conserva mac fun _ _ => rfl
  | appMain respuesta suerte =>
      rw [Carnet.tras]
      split
      · next borrada =>
        have off : e.arrancado = false ∧ e.nvs.get "7_STATUS-MATR" ≠ some ['1'] := by
          simpa [borra] using borrada
        refine ⟨mac.trans acredita.mac, ?_⟩
        rw [Esp32.paso, if_neg (by rw [off.1]; exact Bool.false_ne_true)]
        exact appMain_carnet off.2 acredita.mac respuesta suerte
      · next conservada =>
        refine acredita.conserva mac fun registro _ => ?_
        rw [Esp32.paso]
        split
        · rfl
        · next off =>
          have registrada : e.nvs.get "7_STATUS-MATR" = some ['1'] := by
            simpa [borra, off] using conservada
          rw [nvs_appMain registrada]
  | disconnected =>
      exact acredita.conserva mac fun registro _ =>
        congrArg (·.get registro) (nvs_suceso e .disconnected)
  | gotIp suerte =>
      exact acredita.conserva mac fun registro _ =>
        congrArg (·.get registro) (nvs_suceso e (.gotIp suerte))
  | uart temperatura digitalInput analogico fuera =>
      refine acredita.conserva mac fun registro _ => ?_
      rw [Esp32.paso]
      split
      · rw [nvs_uart]
      · rfl
  | login login trama =>
      refine acredita.conserva mac fun registro known => ?_
      rw [Esp32.paso]
      split
      · rcases nvs_httpRestWithUrl x e login trama with same | ⟨token, stored⟩
        · rw [same]
        · have other : registro ≠ tokenTrama := by
            rintro rfl
            exact absurd known (by decide)
          rw [stored]
          exact Registers.Store.get_write_of_ne _ _ other
      · rfl
  | peticion p =>
      exact acredita.conserva mac fun registro known => (ajeno_identidad known).atiende x e p
  | apagon p k =>
      exact acredita.conserva mac fun registro known => (ajeno_identidad known).apagon x e p k

-----------------------------------------------------------------------------------------
-- Main results
-----------------------------------------------------------------------------------------

/-- The note of a run from a boot of the card. -/
def carnetDe (x : Externo) (dev : Device) (eventos : List Evento) : Carnet :=
  (firmware x).account (fun e evento _ c => c.tras e evento) (Esp32.arranque dev) .original eventos

theorem acredita_run {x : Externo} {dev : Device} {eventos : List Evento} {e : Esp32}
    (reached : (firmware x).run (Esp32.arranque dev) eventos = some e)
    : Acredita x dev e (carnetDe x dev eventos) := by
  have start : Acredita x dev (Esp32.arranque dev) .original := ⟨rfl, fun _ _ => rfl⟩
  have preserved (e : Esp32) (c : Carnet) (evento : Evento) (e' : Esp32)
      (acredita : Acredita x dev e c) (taken : (firmware x).step e evento = some e')
      : Acredita x dev e' (c.tras e evento) :=
    Option.some.inj taken ▸ acredita.paso evento
  exact Machine.invariant_account preserved start reached

/-- What a login shows is the entry, and it is sent exactly if its address and the timeout are there
too.
-/
theorem authorization_iff {e : Esp32} {authorization : Str}
    : e.peticionLogin.map Client.PeticionLogin.authorization = some authorization
      ↔ (∃ ahsn, e.nvs.get "7_AHSN_BASE64" = some ahsn ∧ authorization = "Basic ".toList ++ ahsn)
        ∧ e.nvs.get "4_URL-LOGIN" ≠ none ∧ e.nvs.get "4_TIMEOUT-HTTP" ≠ none := by
  rw [Esp32.peticionLogin, Client.Cliente.peticionLogin]
  simp only [Client.Cliente.leerNvs]
  cases e.nvs.get "7_AHSN_BASE64" <;> cases e.nvs.get "4_URL-LOGIN" <;>
    cases e.nvs.get "4_TIMEOUT-HTTP" <;> simp [eq_comm]

/-- What a login shows while the identity is that of a number of the STM. -/
theorem Acredita.authorization {x : Externo} {dev : Device} {e : Esp32} {id : Str}
    (acredita : Acredita x dev e (.numero id)) {peticion : Client.PeticionLogin}
    (sent : e.peticionLogin = some peticion)
    : peticion.authorization = "Basic ".toList ++ x.base64Encode (serialDe dev.mac id) := by
  have held : e.nvs.get "7_AHSN_BASE64" = some (x.base64Encode (serialDe dev.mac id)) :=
    acredita.entradas "7_AHSN_BASE64" (by decide)
  obtain ⟨⟨ahsn, found, shown⟩, -⟩ := authorization_iff.mp (congrArg (Option.map _) sent)
  rw [shown, Option.some.inj (found.symm.trans held)]

/-- A serial tells the last four bytes of the address and the number. -/
theorem serialDe_bytes {mac otra : Vector UInt8 6} {id num : Str}
    (same : serialDe mac id = serialDe otra num)
    : mac.toList.drop 2 = otra.toList.drop 2 ∧ id = num := by
  have last (mac : Vector UInt8 6) : mac.toList.drop 2 = [mac[2], mac[3], mac[4], mac[5]] := by
    obtain ⟨⟨bytes⟩, size⟩ := mac
    rcases bytes with _ | ⟨a, _ | ⟨b, _ | ⟨c, _ | ⟨d, _ | ⟨e, _ | ⟨f, _ | ⟨g, rest⟩⟩⟩⟩⟩⟩⟩ <;>
      simp at size
    rfl
  obtain ⟨⟨two, three, four, five⟩, ids⟩ := serialDe_injective same
  rw [last, last, two, three, four, five]
  exact ⟨rfl, ids⟩

/-- Two cards, each with the number of an STM, show the same at the logins that they send exactly if
the last four bytes of their addresses and the numbers are the same, whatever else has happened to
them.
-/
theorem logins_identifican {x : Externo} {decodifica : Str → Option Str}
    (base64 : Base64 x decodifica) {dev otro : Device} {eventos mas : List Evento} {e o : Esp32}
    (reached : (firmware x).run (Esp32.arranque dev) eventos = some e)
    (arrived : (firmware x).run (Esp32.arranque otro) mas = some o) {id num : Str}
    (carnet : carnetDe x dev eventos = .numero id) (carnetOtro : carnetDe x otro mas = .numero num)
    (octetos : Octetos id ∧ Octetos num) {peticion otra : Client.PeticionLogin}
    (sent : e.peticionLogin = some peticion) (sentOtra : o.peticionLogin = some otra)
    : peticion.authorization = otra.authorization
      ↔ dev.mac.toList.drop 2 = otro.mac.toList.drop 2 ∧ id = num := by
  have first : Acredita x dev e (.numero id) := carnet ▸ acredita_run reached
  have second : Acredita x otro o (.numero num) := carnetOtro ▸ acredita_run arrived
  rw [first.authorization sent, second.authorization sentOtra, List.append_cancel_left_eq]
  constructor
  · intro same
    have decoded := congrArg decodifica same
    rw [base64.inverso _ (serialDe_octetos octetos.1 dev.mac),
      base64.inverso _ (serialDe_octetos octetos.2 otro.mac)] at decoded
    exact serialDe_bytes (Option.some.inj decoded)
  · intro both
    obtain ⟨bytes, rfl⟩ := both
    rw [serialDe, serialDe, macEsp, macEsp, bytes]

/-- A new card with an address. -/
def conMac (mac : Vector UInt8 6) : Device := .arranque .empty (fun _ => none) mac

/-- Its first boot. -/
def primerArranque : List Evento :=
  [.appMain (some ("p1-2d3630343733a55148m3".toList ++ [nul])) ⟨true, true⟩]

/-- Witness: two new cards whose addresses differ in the last byte, with the same answer. -/
theorem logins_identifican_macs
    : ∃ e o peticion otra,
        (firmware conCambio).run (Esp32.arranque (conMac macDeMuestra)) primerArranque = some e
        ∧ (firmware conCambio).run
            (Esp32.arranque (conMac #v[0x24, 0x0a, 0x81, 0x12, 0xcf, 0xa5])) primerArranque = some o
        ∧ e.peticionLogin = some peticion ∧ o.peticionLogin = some otra
        ∧ peticion.authorization ≠ otra.authorization := by
  have aceptado : aceptada (some ("p1-2d3630343733a55148m3".toList ++ [nul]))
      = some "3630343733a55148".toList := by
    decide
  have carnet (mac : Vector UInt8 6)
      : carnetDe conCambio (conMac mac) primerArranque = .numero "3630343733a55148".toList :=
    congrArg (fun id => Option.elim id Carnet.vacio Carnet.numero) aceptado
  have octetos : Octetos "3630343733a55148".toList := by
    decide
  refine ⟨_, _, _, _, rfl, rfl, rfl, rfl, fun same => ?_⟩
  have macs := (logins_identifican conCambio_base64 rfl rfl (carnet _) (carnet _)
    ⟨octetos, octetos⟩ rfl rfl).mp same
  exact absurd macs.1 (by decide)

end EspHttpControl.Firmware
