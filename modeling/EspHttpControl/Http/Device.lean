import EspHttpControl.CText.Json
import EspHttpControl.Nvs.Controller
import EspHttpControl.Serial.WebBuffer

/-! What the handlers of the local web server work on: the device, the pieces of a request,
and the orders by which a handler changes the device and answers.
A response is kept as the document that `cJSON_Print` prints; the empty last chunk of every
response is left out.
-/

namespace EspHttpControl.Http

open CText Nvs

abbrev Doc := List (String × Str)

/-- The device as far as the handlers see it. -/
structure Device where
  nvs : Almacen
  /-- The files of the card by their paths, among them the event log. -/
  archivos : Str → Option Str
  /-- The static `token_httser`, which may be NULL. -/
  tokenHttser : Option Str
  mac : Vector UInt8 6
  webBuffer : Str
  puntos : Serial.PuntoWeb → Str
  echoRegistrado : Bool

/-- The device after a boot, as its static memory is initialised. -/
def Device.arranque (nvs : Almacen) (archivos : Str → Option Str) (mac : Vector UInt8 6)
    : Device :=
  {
    nvs := nvs
    archivos := archivos
    tokenHttser := none
    mac := mac
    webBuffer := ['|']
    puntos := fun _ => []
    echoRegistrado := true
  }

def Device.nueva : Device :=
  Device.arranque .empty (fun _ => none) (Vector.replicate 6 0xA1)

/-- The device with a token that is stored and was loaded when its server was started. -/
def Device.enServicio (d : Device) (token : Str) : Device :=
  { d with nvs := d.nvs.write "5_TOK-HTTPSER" token, tokenHttser := some token }

def logTxt : Str := "/spiffs/log.txt".toList

def Device.log (d : Device) : Option Str := d.archivos logTxt

/-- `leer_nvs`: for a missing entry `malloc` is asked for no bytes and gives NULL. -/
def Device.leerNvs (d : Device) (registro : String) : Option Str := d.nvs.get registro

/-- `clearlog` -/
def Device.clearlog (d : Device) : Device :=
  { d with archivos := Function.update d.archivos logTxt (some "LOG DE EVENTOS ESP32\n".toList) }

/-- `grabar_nvs` of a value that is not NULL. -/
def Device.grabarNvs (d : Device) (registro : String) (dato : Str) : Device :=
  { d with nvs := Nvs.grabarNvs d.nvs registro dato }

/-- What is stored under an admitted name is read back. -/
theorem Device.leerNvs_grabarNvs {registro : String} (admite : Admite registro) (d : Device)
    (dato : Str)
    : (d.grabarNvs registro dato).leerNvs registro = some dato :=
  d.nvs.get_write_self dato admite

/-- `trama_endp`: the document with the endpoint's name and one more member. -/
def tramaEndp (endpoint nameid : String) (datos : Str) : Doc :=
  [("endpoint", endpoint.toList), (nameid, datos)]

/-- The usual answer of a handler. -/
def mensaje (endpoint texto : String) : Doc := tramaEndp endpoint "msg" texto.toList

/-- What one call of `httpd_req_recv` brings: a timeout, another error, or a piece of the body
together with the memory that follows it in the buffer.
-/
inductive Recepcion
  | timeout
  | error
  | pieza (datos resto : List Char)
deriving DecidableEq, Repr

/-- How a handler ends: it returns `ESP_OK` or `ESP_FAIL`, it uses a NULL pointer, it restarts
the device, or it is still waiting for the rest of the body.
-/
inductive Fin
  | ok | fail | nullPointer | restart | espera
deriving DecidableEq, Repr

/-- What a response body consists of: nothing, a printed document, bytes, or an error page. -/
inductive Respuesta
  | vacia
  | documento (doc : Doc)
  | bytes (datos : List Char)
  | error (codigo : Nat) (texto : String)
  | redireccion (destino : String)
deriving DecidableEq, Repr

/-- `httpd_resp_sendstr` of a document, or of NULL. -/
def Respuesta.sendstr : Option Doc → Respuesta
  | none => .vacia
  | some doc => .documento doc

theorem Respuesta.sendstr_injective : Function.Injective Respuesta.sendstr := by
  rintro (_ | left) (_ | right) same
  · rfl
  · cases same
  · cases same
  · exact congrArg some (Respuesta.documento.inj same)

/-- A handler under way: the device, the answer prepared so far, and what has been sent. -/
structure Curso where
  dev : Device
  responhttp : Option Doc
  enviados : List Respuesta

structure Resultado where
  dev : Device
  enviados : List Respuesta
  fin : Fin

def Curso.termina (c : Curso) (fin : Fin) : Resultado := ⟨c.dev, c.enviados, fin⟩

/-- The common end of the handlers: send the prepared answer and return `ESP_OK`. -/
def Curso.responde (c : Curso) : Resultado :=
  ⟨c.dev, c.enviados ++ [.sendstr c.responhttp], .ok⟩

/-- What a handler does once the token is right, one step after another. -/
inductive Orden
  | grabar (registro : String) (dato : Option Str)
  | preparar (doc : Doc)
  | enviar
  | clearlog
  | restart

/-- Carry out the orders; a NULL value given to the storage and a restart end the handler. -/
def Curso.ejecuta (c : Curso) : List Orden → Curso × Option Fin
  | [] => (c, none)
  | .grabar registro (some dato) :: rest =>
    ejecuta { c with dev := c.dev.grabarNvs registro dato } rest
  | .grabar _ none :: _ => (c, some .nullPointer)
  | .preparar doc :: rest => ejecuta { c with responhttp := some doc } rest
  | .enviar :: rest => ejecuta { c with enviados := c.enviados ++ [.sendstr c.responhttp] } rest
  | .clearlog :: rest => ejecuta { c with dev := c.dev.clearlog } rest
  | .restart :: _ => (c, some .restart)

end EspHttpControl.Http
