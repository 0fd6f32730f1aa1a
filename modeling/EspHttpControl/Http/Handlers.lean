import EspHttpControl.Http.Manejador
import EspHttpControl.Http.Puertos
import EspHttpControl.Machines.Runs

/-! The handlers of the registered endpoints.
Text buffers are unbounded. The file server is reduced to what it answers.
-/

namespace EspHttpControl.Http

open CText Nvs

/-- The document of an empty-body request: the named settings under their labels. A NULL value
cannot be added and leaves the handler without a document.
-/
def informe (endpoint : String) (campos : List (String × String)) (d : Device) : Option Doc :=
  (campos.mapM fun campo => (d.leerNvs campo.2).map fun valor => (campo.1, valor)).map
    fun miembros => ("endpoint", endpoint.toList) :: miembros

/-- There is a document exactly if all the settings are stored, and it lists their values; by
induction on the settings.
-/
theorem informe_eq_some {endpoint : String} {campos : List (String × String)} {d : Device}
    {doc : Doc}
    : informe endpoint campos d = some doc
      ↔ (∀ campo ∈ campos, d.leerNvs campo.2 ≠ none)
        ∧ doc = ("endpoint", endpoint.toList)
          :: campos.map fun campo => (campo.1, (d.leerNvs campo.2).getD []) := by
  have miembros : ∀ leidos : Doc,
      (campos.mapM fun campo => (d.leerNvs campo.2).map fun valor => (campo.1, valor))
          = some leidos
        ↔ (∀ campo ∈ campos, d.leerNvs campo.2 ≠ none)
          ∧ leidos = campos.map fun campo => (campo.1, (d.leerNvs campo.2).getD []) := by
    induction campos with
    | nil => simp [eq_comm]
    | cons campo rest ih =>
        intro leidos
        cases held : d.leerNvs campo.2 with
        | none => simp [held]
        | some valor =>
            constructor
            · intro read
              simp only [List.mapM_cons, held, Option.map_some, Option.pure_def,
                Option.bind_eq_bind, Option.bind_some, Option.bind_eq_some_iff,
                Option.some.injEq] at read
              obtain ⟨later, read, rfl⟩ := read
              obtain ⟨stored, rfl⟩ := (ih later).mp read
              exact ⟨List.forall_mem_cons.mpr ⟨by simp [held], stored⟩, by simp [held]⟩
            · rintro ⟨stored, rfl⟩
              have read := (ih _).mpr ⟨(List.forall_mem_cons.mp stored).2, rfl⟩
              simp [List.mapM_cons, read, held]
  rw [informe, Option.map_eq_some_iff]
  constructor
  · rintro ⟨leidos, read, rfl⟩
    obtain ⟨stored, rfl⟩ := (miembros leidos).mp read
    exact ⟨stored, rfl⟩
  · rintro ⟨stored, rfl⟩
    exact ⟨_, (miembros _).mpr ⟨stored, rfl⟩, rfl⟩

/-- The branch of the right token in the handlers that store settings: each name is given the
item at its position, in order, and the answer is prepared.
-/
def guarda (endpoint : String) (registros : List (String × Nat)) (valores : List (Option Str))
    : List Orden :=
  (registros.map fun (registro, i) => .grabar registro valores[i]?.join)
    ++ [.preparar (mensaje endpoint "Data saved..")]

/-- `trama_handler` -/
def tramaHandler : Manejador where
  endpoint := "TRAMA"
  bufSize := 100
  compruebaJson := true
  miembros := [["time"]]
  vacio d := [.sendstr (informe "TRAMA" [("TIME", "1_TRAMA-TIME")] d)]
  autenticado _ valores := some (guarda "TRAMA" [("1_TRAMA-TIME", 0)] valores)

/-- `server_handler`, which sends its report, if there is one, and then a NULL answer. -/
def serverHandler : Manejador where
  endpoint := "SERVER"
  bufSize := 100
  compruebaJson := false
  miembros := [["time"]]
  vacio d :=
    match informe "SERVER" [("Time_Server_ms", "4_SERVERTIME")] d with
    | some doc => [.documento doc, .vacia]
    | none => [.vacia]
  autenticado _ valores := some (guarda "SERVER" [("4_SERVERTIME", 0)] valores)

/-- `log_handler`; with another `RESET` than `true` no answer is prepared. For an empty body it
also prints the lines of the log to the console, each as a format, which is left out here.
-/
def logHandler : Manejador where
  endpoint := "LOG"
  bufSize := 100
  compruebaJson := true
  miembros := [["RESET"]]
  vacio _ := [.documento (tramaEndp "LOG" "EVENTOS" "log de eventos".toList)]
  autenticado _ valores :=
    valores[0]?.join.map fun message =>
      if message = "true".toList then [.preparar (mensaje "LOG" "Clear in progress.."), .clearlog]
      else []

/-- `resetesp_handler` -/
def resetespHandler : Manejador where
  endpoint := "RESETESP"
  bufSize := 100
  compruebaJson := true
  miembros := [["RESET"]]
  vacio _ := [.documento (mensaje "RESETESP" "No read Data")]
  autenticado _ valores :=
    valores[0]?.join.map fun message =>
      if message = "true".toList then
        [.preparar (mensaje "RESETESP" "Reset in progress.."), .enviar, .restart]
      else [.preparar (mensaje "RESETESP" "Error command")]

/-- The settings that `defaultesp_handler` writes before the ports. -/
def valoresDefault : List (String × String) := [
  ("4_SERVER-TIME", "30"), ("1_TRAMA-TIME", "2000"), ("2_WiFi-AP-PASS", "ivam45678"),
  ("2_WiFi-AP-IP", "124.213.16.29"), ("2_WiFi-ST-SSID", "WIFI_PRUEBAS"),
  ("2_WiFi-ST-PASS", "12345678"), ("2_WiFi-ST-INTE", "3"),
  ("4_URL-TRAMA",
    "https://atsdev.actiontracker.es/ivtramas/api-tramas/api/trama/saveFromESP32"),
  ("4_URL-LOGIN", "https://atsdev.actiontracker.es/api-ats/authDevice/login"),
  ("4_TOKEN-LOGIN", "Basic SUFtaW5pLTAxOjAxMEEwMDAwODExMmNmYTQzNjMwMzQzNzMzYTU1MTQ4IA"),
  ("4_TIMEOUT-HTTP", "8000"), ("4_TOKEN-TIME", "12"),
  ("5_TOK-HTTPSER", "dslfkjasdkhf732489032l;ksd"), ("7_MODO-CONEX", "0"),
  ("7_STATUS-MATR", "0")
]

/-- `defaultesp_handler`; an empty body is answered in the name of `SETPORTS`. -/
def defaultespHandler : Manejador where
  endpoint := "DEFAULTESP"
  bufSize := 100
  compruebaJson := true
  miembros := [["RESET"]]
  vacio _ := [.documento (mensaje "SETPORTS" "No read Data")]
  autenticado _ valores :=
    valores[0]?.join.map fun message =>
      if message = "true".toList then
        .preparar (mensaje "DEFAULTESP" "Default reset in progress..")
          :: (valoresDefault.map fun (registro, dato) => .grabar registro (some dato.toList))
          ++ (filas.map fun fila => .grabar fila.registro (some "255".toList))
          ++ [.enviar]
      else [.preparar (mensaje "DEFAULTESP" "Error command")]

/-- `wifiap_handler`; the network name is completed with the address of the card. -/
def wifiapHandler : Manejador where
  endpoint := "WIFIAP"
  bufSize := 300
  compruebaJson := true
  miembros := [["WIFI_AP_SSID"], ["WIFI_AP_PASS"], ["WIFI_AP_IP"]]
  vacio d := [.sendstr (informe "WIFIAP" [("WIFI_AP_SSID", "2_WIFI-AP-SSID"),
    ("WIFI_AP_PASS", "2_WIFI-AP-PASS"), ("WIFI_AP_IP", "2_WIFI-AP-IP")] d)]
  autenticado d valores :=
    valores[0]?.join.bind fun ssidap =>
      (d.leerNvs "8_MACADRRWIFI").map fun mac =>
        .grabar "2_WIFI-AP-SSID" (some (ssidap ++ '_' :: mac))
          :: guarda "WIFIAP" [("2_WIFI-AP-PASS", 1), ("2_WIFI-AP-IP", 2)] valores

/-- `wifist_handler` -/
def wifistHandler : Manejador where
  endpoint := "WIFIST"
  bufSize := 300
  compruebaJson := true
  miembros := [["WIFI_ST_SSID"], ["WIFI_ST_PASS"], ["WIFI_ST_INTENTOS"]]
  vacio d := [.sendstr (informe "WIFIST" [("WIFI_ST_SSID", "2_WIFI-ST-SSID"),
    ("WIFI_ST_PASS", "2_WIFI-ST-PASS"), ("WIFI_ST_INTENTOS", "2_WIFI-ST-INTE")] d)]
  autenticado _ valores :=
    some (guarda "WIFIST"
      [("2_WIFI-ST-SSID", 0), ("2_WIFI-ST-PASS", 1), ("2_WIFI-ST-INTE", 2)] valores)

/-- `sethttp_handler` -/
def sethttpHandler : Manejador where
  endpoint := "SETHTTP"
  bufSize := 500
  compruebaJson := true
  miembros := [["URL_TRAMA"], ["URL_LOGIN"], ["TOKEN_SERVER"], ["TIMEOUT_HTTPCLIENT"],
    ["TOKEN_TIME"], ["SERVER_TIME"]]
  vacio d := [.sendstr (informe "SETHTTP" [("URL_TRAMA", "4_URL-TRAMA"),
    ("URL_LOGIN", "4_URL-LOGIN"), ("TOKEN_SERVER", "5_TOK-HTTPSER"),
    ("TIMEOUT_HTTPCLIENT", "4_TIMEOUT-HTTP"), ("TOKEN_TIME", "4_TOKEN-TIME"),
    ("SERVER_TIME", "4_SERVER-TIME")] d)]
  autenticado _ valores :=
    some (guarda "SETHTTP"
      [("4_URL-TRAMA", 0), ("4_URL-LOGIN", 1), ("4_TIMEOUT-HTTP", 3), ("4_TOKEN-TIME", 4),
        ("5_TOK-HTTPSER", 2), ("4_SERVER-TIME", 5)] valores)

/-- `setports_handler`, which also marks the card as registered. -/
def setportsHandler : Manejador where
  endpoint := "SETPORTS"
  bufSize := 4100
  compruebaJson := true
  miembros := filas.map Fila.path
  vacio _ := [.documento (mensaje "SETPORTS" "No read Data")]
  autenticado _ valores :=
    some ((filas.zipIdx.map fun (fila, i) => .grabar fila.registro valores[i]?.join)
      ++ [.grabar "7_STATUS-MATR" (some "1".toList),
        .preparar (mensaje "SETPORTS" "Data saved..")])

-----------------------------------------------------------------------------------------
-- The other handlers
-----------------------------------------------------------------------------------------

/-- The address as `version_handler` prints it, byte by byte with `%x`. -/
def textoMac (mac : Vector UInt8 6) : Str :=
  mac.toList.flatMap fun byte => Nat.toDigits 16 byte.toNat

/-- `version_handler`: the report is sent before the address and the name are stored. -/
def versionHandler (d : Device) : Resultado :=
  let s := textoMac d.mac
  let doc := (informe "VERSION" [("Serial_ATmini", "7_SERIAL_ID"), ("Serial_ESP256", "7_USER_ID"),
      ("Serial_ESP64", "7_AHSN_BASE64")] d).map fun seriales =>
    seriales ++ [("MAC_ESP", s), ("Version_ESP", "dsf34545g.bin".toList),
      ("Version_STM", "dfdsfsdf.bin".toList)]
  let conMac := d.grabarNvs "8_MACADRRWIFI" s
  match conMac.leerNvs "8_MACADRRWIFI" with
  | some mac =>
    ⟨conMac.grabarNvs "2_WiFi-AP-SSID" ("ivAdventureM_".toList ++ mac), [.sendstr doc], .ok⟩
  | none => ⟨conMac, [.sendstr doc], .nullPointer⟩

/-- `version_handler` names the access point after the text that it has just stored. -/
theorem versionHandler_textoMac (d : Device)
    : (versionHandler d).dev
        = (d.grabarNvs "8_MACADRRWIFI" (textoMac d.mac)).grabarNvs "2_WiFi-AP-SSID"
            ("ivAdventureM_".toList ++ textoMac d.mac)
      ∧ (versionHandler d).fin = .ok := by
  have read : (d.grabarNvs "8_MACADRRWIFI" (textoMac d.mac)).leerNvs "8_MACADRRWIFI"
      = some (textoMac d.mac) :=
    Device.leerNvs_grabarNvs (by decide) d _
  rw [versionHandler, read]
  exact ⟨rfl, rfl⟩

/-- The handlers that show a text of the serial controller, such as `temp_handler`. -/
def datosHandler (endpoint : String) (texto : Str) (d : Device) : Resultado :=
  ⟨d, [.documento (tramaEndp endpoint "DATA" texto)], .ok⟩

/-- `echo_post_handler`: each piece is sent back. -/
def echoPostHandler (d : Device) : Nat → List Recepcion → List Respuesta → Resultado
  | 0, _, enviados => ⟨d, enviados, .ok⟩
  | _ + 1, [], enviados => ⟨d, enviados, .espera⟩
  | remaining + 1, .timeout :: rest, enviados => echoPostHandler d (remaining + 1) rest enviados
  | _ + 1, .error :: _, enviados => ⟨d, enviados, .fail⟩
  | _ + 1, .pieza [] _ :: _, enviados => ⟨d, enviados, .fail⟩
  | remaining + 1, .pieza (byte :: datos) _ :: rest, enviados =>
    echoPostHandler d (remaining - datos.length) rest (enviados ++ [.bytes (byte :: datos)])

/-- `http_404_error_handler` for `/echo` after `ctrl_put_handler` took it away. -/
def http404ErrorHandler (d : Device) : Resultado :=
  ⟨d, [.error 404 "/echo URI is not available"], .fail⟩

/-- `ctrl_put_handler`: the first byte says whether `/echo` is there. -/
def ctrlPutHandler (d : Device) : List Recepcion → Resultado
  | [] => ⟨d, [], .espera⟩
  | .timeout :: _ => ⟨d, [.error 408 "Server closed this connection"], .fail⟩
  | .error :: _ => ⟨d, [], .fail⟩
  | .pieza [] _ :: _ => ⟨d, [], .fail⟩
  | .pieza (buf :: _) _ :: _ => ⟨{ d with echoRegistrado := buf ≠ '0' }, [.vacia], .ok⟩

/-- `FILE_PATH_MAX` -/
def filePathMax : Nat := 15 + 32

/-- `get_path_from_uri` with the base path `/spiffs`: the path up to a query or a fragment. -/
def getPathFromUri (uri : Str) : Option Str :=
  let path := uri.takeWhile fun c => c ≠ '?' ∧ c ≠ '#'
  if "/spiffs".length + path.length + 1 > filePathMax then none else some path

/-- `download_get_handler`; `directorio` says whether the path opens as a directory. -/
def downloadGetHandler (d : Device) (uri : Str) (directorio : Bool) : Resultado :=
  match getPathFromUri uri with
  | none => ⟨d, [.error 500 "Filename too long"], .fail⟩
  | some filename =>
    if filename.getLast? = some '/' then
      if directorio then ⟨d, [.vacia], .ok⟩
      else ⟨d, [.error 404 "Directory does not exist"], .fail⟩
    else
      match d.archivos ("/spiffs".toList ++ filename) with
      | some contenido => ⟨d, [.bytes contenido], .ok⟩
      | none =>
        if filename = "/index.html".toList then ⟨d, [.redireccion "/"], .ok⟩
        else if filename = "/favicon.ico".toList then ⟨d, [], .ok⟩
        else ⟨d, [.error 404 "File does not exist"], .fail⟩

-----------------------------------------------------------------------------------------
-- The registered endpoints
-----------------------------------------------------------------------------------------

inductive ConToken
  | trama | server | log | resetesp | defaultesp | wifiap | wifist | sethttp | setports
deriving DecidableEq, Repr

def ConToken.manejador : ConToken → Manejador
  | .trama => tramaHandler
  | .server => serverHandler
  | .log => logHandler
  | .resetesp => resetespHandler
  | .defaultesp => defaultespHandler
  | .wifiap => wifiapHandler
  | .wifist => wifistHandler
  | .sethttp => sethttpHandler
  | .setports => setportsHandler

/-- A request to one of the endpoints that `start_webserver` registers. -/
inductive Peticion
  | conToken (endpoint : ConToken) (contentLen : Nat) (recepciones : List Recepcion)
  | version | webbuffer | ds18b20
  | punto (punto : Serial.PuntoWeb)
  | echo (contentLen : Nat) (recepciones : List Recepcion)
  | ctrl (recepciones : List Recepcion)
  | download (uri : Str) (directorio : Bool)

/-- A request whose body arrives in one piece, after some timeouts. -/
def Peticion.enUnaPieza (E : ConToken) (esperas : Nat) (datos resto : List Char)
    (cola : List Recepcion)
    : Peticion :=
  .conToken E datos.length (List.replicate esperas .timeout ++ .pieza datos resto :: cola)

/-- The name under which an endpoint of the serial controller answers. -/
def nombrePunto : Serial.PuntoWeb → String
  | .trans => "TRANSM"
  | .temp => "TEMP"
  | .tanq => "TANQ"
  | .disp => "DISP"
  | .bat => "BAT"
  | .motor => "MOTOR"
  | .interrup => "INTERUP"
  | .tempo => "TEMPO"
  | .gnss => "GNSS"

/-- The answer of the server to a request. -/
def servir (parse : Str → Option Json) (d : Device) : Peticion → Resultado
  | .conToken endpoint contentLen recepciones =>
    endpoint.manejador.handler parse d contentLen recepciones
  | .version => versionHandler d
  | .webbuffer => datosHandler "WEBBUFFER" d.webBuffer d
  | .ds18b20 => datosHandler "DS18B20" "NOT AVAILABLE".toList d
  | .punto punto => datosHandler (nombrePunto punto) (d.puntos punto) d
  | .echo contentLen recepciones =>
    if d.echoRegistrado then echoPostHandler d contentLen recepciones [] else http404ErrorHandler d
  | .ctrl recepciones => ctrlPutHandler d recepciones
  | .download uri directorio => downloadGetHandler d uri directorio

/-- The server over requests one after another; a handler that stops leaves its device. -/
def servidor (parse : Str → Option Json) : Machines.Machine Device Peticion where
  step d p := some (servir parse d p).dev

theorem servidor_run (parse : Str → Option Json) (d : Device) (ps : List Peticion)
    : (servidor parse).run d ps = some (ps.foldl (fun d p => (servir parse d p).dev) d) := by
  induction ps generalizing d with
  | nil => rfl
  | cons p rest ih => exact ih (servir parse d p).dev

end EspHttpControl.Http
