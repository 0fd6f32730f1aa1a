import EspHttpControl.Client.Login
import EspHttpControl.Http.Escrituras
import EspHttpControl.Http.Setports
import EspHttpControl.Http.Token
import EspHttpControl.Serial.TxTask

/-! The whole card: `app_main`, its server, its tasks and the one storage that they share.
A card whose status is not `1` is erased at its boot and filled again from the answer of the STM.
`nvs_flash_init` is taken to find a partition in order. Texts are taken to fit their buffers, and a
fault of a task restarts the card.

A turn of the serial task, a round of the client and a request are single steps here; what others
see in the middle of a turn is a matter of the statements of the tasks. `panic_button_task` and
`alarm_button_task`, which post frames of their own, are left out.
-/

namespace EspHttpControl.Firmware

open CText Nvs Machines Http

/-- The code of other libraries that the card calls. -/
structure Externo where
  /-- `cJSON_Parse` -/
  parse : Str → Option Json
  atof : Str → UInt32
  /-- `mbedtls_aes_crypt_cbc` under a key and an initial vector. -/
  aesCryptCbc : Str → Str → Str → Str
  /-- `mbedtls_base64_encode` -/
  base64Encode : Str → Str

structure Esp32 where
  /-- The server together with the device; the storage of the device is that of the card. -/
  web : Webserver
  /-- The memory of the HTTP client, which reads and writes the storage of the card. -/
  cliente : Client.Cliente
  txTask : Serial.TxTask
  /-- `app_main` has run to its end. -/
  arrancado : Bool
  /-- The tasks of a registered card are running. -/
  tareas : Bool

namespace Esp32

/-- A card that is switched on. -/
def arranque (dev : Device) : Esp32 :=
  {
    web := Webserver.arranque dev
    cliente := Client.Cliente.arranque dev.nvs
    txTask := Serial.TxTask.inicial []
    arrancado := false
    tareas := false
  }

def nvs (e : Esp32) : Almacen := e.web.dev.nvs

def conDev (e : Esp32) (dev : Device) : Esp32 := { e with web := { e.web with dev := dev } }

def conNvs (e : Esp32) (nvs : Almacen) : Esp32 := e.conDev { e.web.dev with nvs := nvs }

/-- A restart, up to the registration of the two network events in `app_main`: the storage and
the files stay, the memory is as it was initialised.
-/
def reinicio (e : Esp32) : Esp32 :=
  {
    web := e.web.reinicio e.nvs
    cliente := Client.Cliente.arranque e.nvs
    txTask := Serial.TxTask.inicial []
    arrancado := false
    tareas := false
  }

end Esp32

-----------------------------------------------------------------------------------------
-- The first boot
-----------------------------------------------------------------------------------------

/-- The writes of `valores_iniciales`. -/
def entradasIniciales : List Escritura := [
  ("4_SERVER-TIME", "10".toList), ("1_TRAMA-TIME", "500".toList),
  ("2_WIFI-AP-PASS", "ivam45678".toList), ("2_WIFI-AP-IP", "124.213.16.29".toList),
  ("2_WIFI-ST-SSID", "WIFI_PRUEBAS".toList), ("2_WIFI-ST-PASS", "12345678".toList),
  ("2_WIFI-ST-INTE", "3".toList),
  ("4_URL-TRAMA",
    "https://atsdev.actiontracker.es/ivtramas/api-tramas/api/trama/saveFromESP32".toList),
  ("4_URL-LOGIN", "https://atsdev.actiontracker.es/api-ats/authDevice/login".toList),
  ("4_URL-REG", "https://atsdev.actiontracker.es/api-ats/device2/create".toList),
  ("4_TOKEN-LOGIN",
    "Basic SUFtaW5pLTAxOjAxMEEwMDAwODExMmNmYTQzNjMwMzQzNzMzYTU1MTQ4IA".toList),
  ("4_TIMEOUT-HTTP", "8000".toList), ("4_TOKEN-TIME", "12".toList),
  (tokHttpser, "dslfkjasdkhf732489032l;ksd".toList)
]

/-- `valores_iniciales` -/
def valoresIniciales (nvs : Almacen) : Almacen := nvs.writeAll entradasIniciales

/-- `padded_input`: the text is filled up to whole blocks. -/
def paddedInput (input : Str) : Str :=
  let inputLen := input.length + 1
  let paddedInputLen := if inputLen < 16 then 16 else (input.length / 16 + 1) * 16
  let pkc5Value := Char.ofNat (17 - inputLen % 16)
  input ++ List.replicate (paddedInputLen - input.length) pkc5Value

/-- `encrypt_any_length_string`: the filled text is encrypted and encoded. -/
def encryptAnyLengthString (x : Externo) (input key iv : Str) : Str :=
  x.base64Encode (x.aesCryptCbc key iv (paddedInput input))

/-- The last four bytes of the address, each with two digits. -/
def macEsp (mac : Vector UInt8 6) : Str :=
  (mac.toList.drop 2).flatMap fun byte =>
    let digits := Nat.toDigits 16 byte.toNat
    List.replicate (2 - digits.length) '0' ++ digits

/-- `request_and_store_ahsn` on the answer to its second request, if one came; the first answer
is dropped. The sizes of its buffers are left out here: a number of sixteen characters runs one byte
over `mac_esp` and over `ahsn`.
-/
def requestAndStoreAhsn (x : Externo) (mac : Vector UInt8 6) (respuesta : Option (List Char))
    (nvs : Almacen)
    : Almacen × Fin :=
  let cleanup := (writexNvs nvs "7_STATUS-MATR" "0".toList, Fin.fail)
  match respuesta with
  | none => cleanup
  | some data =>
    let dataAsString := cstr data
    if ¬(['p', '-', 'd', 'm'].all dataAsString.contains) then cleanup
    else
      match (strtok ['m'] (strtok ['d'] (some dataAsString)).2).1 with
      | none => (nvs, .nullPointer)
      | some stm32Id =>
        if stm32Id.length ≠ 16 then cleanup
        else
          let ahsn := ":020a0000".toList ++ macEsp mac ++ stm32Id
          let encryptedAhsn := encryptAnyLengthString x ahsn
            "@AjH39zYz!by3Y#Aw4v%n8KZssaMpETT".toList "Bx3K6U3@^955ZN5G".toList
          let nvs := writexNvs nvs "7_SERIAL_ID" ahsn
          let nvs := writexNvs nvs "7_USER_ID" encryptedAhsn
          (writexNvs nvs "7_AHSN_BASE64" (x.base64Encode ahsn), .ok)

-----------------------------------------------------------------------------------------
-- Steps
-----------------------------------------------------------------------------------------

/-- What happens to the card. -/
inductive Evento
  | reinicio
  /-- The rest of `app_main`, with the answer of the STM and the start of the server. -/
  | appMain (respuesta : Option (List Char)) (suerte : Suerte)
  | disconnected
  | gotIp (suerte : Suerte)
  /-- One turn of `UART_tx_task` with the items of its three waits. -/
  | uart (temperatura digitalInput analogico : Option (List Char)) (fuera : Int32)
  /-- One round of `http_client_task`: its login and, if one is sent, its frame. -/
  | login (login trama : Client.Intento)
  | peticion (p : Peticion)
  /-- The power fails in a request behind the given number of writes. -/
  | apagon (p : Peticion) (k : Nat)

namespace Esp32

/-- A call or an event of the server; one that cannot go on restarts the card. -/
def suceso (e : Esp32) (suceso : Suceso) : Esp32 :=
  match e.web.paso suceso with
  | some web => { e with web := web }
  | none => e.reinicio

/-- `app_main` behind the registration of the events. -/
def appMain (x : Externo) (e : Esp32) (respuesta : Option (List Char)) (suerte : Suerte) : Esp32 :=
  let e := { e with arrancado := true }
  match alArrancar e.nvs with
  | some ram =>
    let e := { e with txTask := Serial.TxTask.inicial ram.keysWithPorts, tareas := true }
    e.suceso (.appMain suerte)
  | none =>
    match requestAndStoreAhsn x e.web.dev.mac respuesta .empty with
    | (nvs, .ok) => (e.conNvs (valoresIniciales nvs)).suceso (.appMain suerte)
    | (nvs, .fail) => e.conNvs nvs
    | (nvs, _) => (e.conNvs nvs).reinicio

/-- A turn of `UART_tx_task`. -/
def uart (x : Externo) (e : Esp32) (vuelta : Serial.Vuelta) : Esp32 :=
  match Serial.ciclo x.atof e.txTask vuelta with
  | .ok (txTask, _) =>
    { e.conDev { e.web.dev with webBuffer := txTask.webBuffer, puntos := txTask.puntos } with
      txTask := txTask }
  | .error _ => e.reinicio

def conCliente (e : Esp32) (cliente : Client.Cliente) : Esp32 :=
  { e.conNvs cliente.nvs with cliente := cliente }

/-- `http_rest_with_url`; a login that was granted is stored also if its frame fails. -/
def httpRestWithUrl (x : Externo) (e : Esp32) (login trama : Client.Intento) : Esp32 :=
  match Client.login x.parse { e.cliente with nvs := e.nvs } login with
  | none => e.reinicio
  | some cliente =>
    if cliente.estado = 1 then
      match Client.httptrama cliente e.web.dev.webBuffer trama with
      | none => (e.conCliente cliente).reinicio
      | some cliente => e.conCliente cliente
    else e.conCliente cliente

/-- A request to the server, if one is running. -/
def atiende (x : Externo) (e : Esp32) (p : Peticion) : Esp32 :=
  if e.web.activos = [] then e
  else
    let resultado := servir x.parse e.web.dev p
    match resultado.fin with
    | .restart => (e.conDev resultado.dev).reinicio
    | .nullPointer => (e.conDev resultado.dev).reinicio
    | _ => e.conDev resultado.dev

/-- A request that the power failure cuts short. -/
def apagon (x : Externo) (e : Esp32) (p : Peticion) (k : Nat) : Esp32 :=
  if e.web.activos = [] then e.reinicio
  else (e.conNvs (e.nvs.writeAll ((p.escrituras x.parse e.web.dev).take k))).reinicio

def paso (x : Externo) (e : Esp32) : Evento → Esp32
  | .reinicio => e.reinicio
  | .appMain respuesta suerte => if e.arrancado then e else e.appMain x respuesta suerte
  | .disconnected => e.suceso .disconnected
  | .gotIp suerte => e.suceso (.gotIp suerte)
  | .uart temperatura digitalInput analogico fuera =>
    if e.tareas then e.uart x ⟨temperatura, digitalInput, analogico, e.nvs, fuera⟩ else e
  | .login login trama => if e.tareas then e.httpRestWithUrl x login trama else e
  | .peticion p => e.atiende x p
  | .apagon p k => e.apagon x p k

end Esp32

-----------------------------------------------------------------------------------------
-- The components in the card
-----------------------------------------------------------------------------------------

/-- A request goes as it does on the server alone. -/
theorem Esp32.web_atiende (x : Externo) (e : Esp32) (p : Peticion)
    : (e.atiende x p).web = e.web.atiende x.parse p := by
  rw [Esp32.atiende, Webserver.atiende]
  split
  · rfl
  · dsimp only
    cases (servir x.parse e.web.dev p).fin <;> rfl

/-- A round of `http_client_task` that goes to its end is one of the client alone. -/
theorem Esp32.httpRestWithUrl_cliente {x : Externo} {e : Esp32} {login trama : Client.Intento}
    {cliente : Client.Cliente}
    (ended : Client.httpRestWithUrl x.parse { e.cliente with nvs := e.nvs }
      ⟨login, trama, e.web.dev.webBuffer⟩ = some cliente)
    : e.httpRestWithUrl x login trama = e.conCliente cliente := by
  obtain ⟨tras, entered, ended⟩ := Option.bind_eq_some_iff.mp ended
  rw [Esp32.httpRestWithUrl, entered]
  dsimp only
  split at ended
  · next granted => rw [if_pos granted, ended]
  · next refused => rw [if_neg refused, Option.some.inj ended]

-----------------------------------------------------------------------------------------
-- What a step does
-----------------------------------------------------------------------------------------

/-- A call or an event of the server goes through, or it restarts the card. -/
theorem Esp32.suceso_cases (e : Esp32) (suceso : Suceso)
    : (∃ web, e.web.paso suceso = some web ∧ e.suceso suceso = { e with web := web })
      ∨ e.suceso suceso = e.reinicio := by
  rw [Esp32.suceso]
  cases taken : e.web.paso suceso with
  | none => exact Or.inr rfl
  | some web => exact Or.inl ⟨web, rfl, rfl⟩

/-- A turn of the serial task ends, or its fault restarts the card. -/
theorem Esp32.uart_cases (x : Externo) (e : Esp32) (vuelta : Serial.Vuelta)
    : (∃ txTask reconstruido, Serial.ciclo x.atof e.txTask vuelta = .ok (txTask, reconstruido)
        ∧ e.uart x vuelta
          = { e.conDev
                { e.web.dev with webBuffer := txTask.webBuffer, puntos := txTask.puntos } with
              txTask := txTask })
      ∨ (∃ fault, Serial.ciclo x.atof e.txTask vuelta = .error fault)
        ∧ e.uart x vuelta = e.reinicio := by
  rw [Esp32.uart]
  cases done : Serial.ciclo x.atof e.txTask vuelta with
  | error fault => exact Or.inr ⟨⟨fault, rfl⟩, rfl⟩
  | ok resultado => exact Or.inl ⟨resultado.1, resultado.2, rfl, rfl⟩

/-- A request finds no server, or it leaves its device, behind which the card may restart. -/
theorem Esp32.atiende_cases (x : Externo) (e : Esp32) (p : Peticion)
    : e.web.activos = [] ∧ e.atiende x p = e
      ∨ e.atiende x p = e.conDev (servir x.parse e.web.dev p).dev
      ∨ e.atiende x p = (e.conDev (servir x.parse e.web.dev p).dev).reinicio := by
  rw [Esp32.atiende]
  split
  · next none' => exact Or.inl ⟨none', rfl⟩
  · right
    dsimp only
    split
    · exact Or.inr rfl
    · exact Or.inr rfl
    · exact Or.inl rfl

/-- A power failure restarts the card behind some writes of the request. -/
theorem Esp32.apagon_cases (x : Externo) (e : Esp32) (p : Peticion) (k : Nat)
    : e.apagon x p k = e.reinicio
      ∨ e.apagon x p k
        = (e.conNvs (e.nvs.writeAll ((p.escrituras x.parse e.web.dev).take k))).reinicio := by
  rw [Esp32.apagon]
  split
  · exact Or.inl rfl
  · exact Or.inr rfl

/-- What `app_main` does behind the registration of the events, by the mark of the card and by what
becomes of the exchange with the STM.
-/
inductive Arranca (x : Externo) (e : Esp32) (respuesta : Option (List Char)) (suerte : Suerte)
    : Esp32 → Prop
  | tareas {ram : KeysRam} (loads : alArrancar e.nvs = some ram)
    : Arranca x e respuesta suerte
        (({ e with
            txTask := Serial.TxTask.inicial ram.keysWithPorts
            arrancado := true
            tareas := true } : Esp32).suceso (.appMain suerte))
  | identidad {nvs : Almacen} (nueva : alArrancar e.nvs = none)
    (asked : requestAndStoreAhsn x e.web.dev.mac respuesta .empty = (nvs, .ok))
    : Arranca x e respuesta suerte
        ((({ e with arrancado := true } : Esp32).conNvs (valoresIniciales nvs)).suceso
          (.appMain suerte))
  | rehusada {nvs : Almacen} (nueva : alArrancar e.nvs = none)
    (asked : requestAndStoreAhsn x e.web.dev.mac respuesta .empty = (nvs, .fail))
    : Arranca x e respuesta suerte (({ e with arrancado := true } : Esp32).conNvs nvs)
  | reinicia {nvs : Almacen} {fin : Fin} (nueva : alArrancar e.nvs = none)
    (asked : requestAndStoreAhsn x e.web.dev.mac respuesta .empty = (nvs, fin))
    : Arranca x e respuesta suerte ((({ e with arrancado := true } : Esp32).conNvs nvs).reinicio)

theorem Esp32.appMain_cases (x : Externo) (e : Esp32) (respuesta : Option (List Char))
    (suerte : Suerte)
    : Arranca x e respuesta suerte (e.appMain x respuesta suerte) := by
  rw [Esp32.appMain]
  dsimp only
  split
  · next ram loads => exact .tareas loads
  · next nueva =>
    split
    · next nvs asked => exact .identidad nueva asked
    · next nvs asked => exact .rehusada nueva asked
    · next nvs fin _ _ asked => exact .reinicia nueva asked

/-- The card over everything that happens to it. -/
def firmware (x : Externo) : Machine Esp32 Evento where
  step e evento := some (e.paso x evento)

/-- Nothing stops the card for good. -/
theorem firmware_run (x : Externo) (e : Esp32) (eventos : List Evento)
    : ∃ e', (firmware x).run e eventos = some e' := by
  induction eventos generalizing e with
  | nil => exact ⟨e, rfl⟩
  | cons evento rest ih => exact ih (e.paso x evento)

end EspHttpControl.Firmware
