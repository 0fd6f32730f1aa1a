import EspHttpControl.Firmware.Identidad
import EspHttpControl.Machines.Accounts

/-! The session token of the HTTP client on the whole card.
`4_TOKEN-TRAMA` lies in the same storage as the settings, next to the requests of the local
server, the boots and the power failures; only the login writes it. The frames are those of the
login task; those of the buttons are left out with their tasks.
-/

namespace EspHttpControl.Firmware

open CText Nvs Machines Http

/-- `4_TOKEN-TRAMA` -/
def tokenTrama : String := "4_TOKEN-TRAMA"

/-- What the server has told the card so far: the token of its last grant since the storage was
erased, and the tokens that it granted since the last boot.
-/
structure Libro where
  vigente : Option Str
  concedidos : List Str

/-- The request of `http_rest_with_url`, which reads the storage of the card. -/
def Esp32.peticionLogin (e : Esp32) : Option Client.PeticionLogin :=
  Client.Cliente.peticionLogin { e.cliente with nvs := e.nvs }

/-- The token that the server grants in its response to a login, if the login is sent. -/
def concede (x : Externo) (e : Esp32) (login : Client.Intento) : Option Str :=
  e.peticionLogin.bind fun _ => login.token x.parse

/-- The token that the server grants in an event. -/
def otorgado (x : Externo) (e : Esp32) : Evento → Option Str
  | .login login _ => if e.tareas then concede x e login else none
  | _ => none

/-- The boot of a card that is not registered erases the storage. -/
def borra (e : Esp32) : Evento → Bool
  | .appMain _ _ => !e.arrancado && e.nvs.get "7_STATUS-MATR" != some ['1']
  | _ => false

/-- The notes of one event; a card that is booting has been granted nothing yet. -/
def Libro.anota (x : Externo) (e : Esp32) (evento : Evento) (e' : Esp32) (l : Libro) : Libro :=
  {
    vigente := if borra e evento then none else (otorgado x e evento).or l.vigente
    concedidos :=
      if e'.arrancado then l.concedidos ++ (otorgado x e evento).toList else []
  }

/-- The storage and the frames are as the notes say. -/
structure AlDia (e : Esp32) (l : Libro) : Prop where
  vigente : e.nvs.get tokenTrama = l.vigente
  tramas : e.cliente.tramas.map Client.Envio.accessToken = l.concedidos.map some
  largo : e.cliente.outputLen = 0
  respuesta : ∃ cuerpo, Client.Guarda e.cliente.localResponseBuffer cuerpo
  parada : e.arrancado = false → e.tareas = false ∧ l.concedidos = []

/-- The card has just booted. -/
structure Recien (e : Esp32) : Prop where
  tramas : e.cliente.tramas = []
  largo : e.cliente.outputLen = 0
  respuesta : ∃ cuerpo, Client.Guarda e.cliente.localResponseBuffer cuerpo
  arrancado : e.arrancado = false
  tareas : e.tareas = false

/-- The client and the tasks are as before. -/
structure Aparte (e e' : Esp32) : Prop where
  cliente : e'.cliente = e.cliente
  arrancado : e'.arrancado = e.arrancado
  tareas : e'.tareas = e.tareas

theorem recien_reinicio (e : Esp32) : Recien e.reinicio :=
  ⟨rfl, rfl, ⟨[], Client.guarda_nil⟩, rfl, rfl⟩

/-- No request writes the entry. -/
structure Ajeno (registro : String) : Prop where
  endpoints : ∀ E : ConToken, registro ∉ E.escribe
  version : registro ≠ "8_MACADRRWIFI" ∧ registro ≠ "2_WiFi-AP-SSID"

section Ajeno

variable {registro : String}

theorem Ajeno.peticion (ajeno : Ajeno registro) (x : Externo) (d : Device) (p : Peticion)
    : ∀ escritura ∈ p.escrituras x.parse d, escritura.1 ≠ registro := by
  cases p with
  | conToken E contentLen recepciones =>
      apply Manejador.forall_turnos
      intro turno taken root ordenes parsed asked escritura member same
      exact ajeno.endpoints E (same ▸ pide_escribe asked escritura member)
  | version =>
      intro escritura member
      rcases List.mem_pair.mp member with rfl | rfl
      · exact Ne.symm ajeno.version.1
      · exact Ne.symm ajeno.version.2
  | _ => exact fun _ member => absurd member List.not_mem_nil

theorem get_writeAll_ajeno {nvs : Almacen} {escrituras : List Escritura}
    (other : ∀ escritura ∈ escrituras, escritura.1 ≠ registro)
    : (nvs.writeAll escrituras).get registro = nvs.get registro := by
  apply Registers.Store.get_writeAll_of_not_mem
  intro member
  obtain ⟨escritura, written, same⟩ := List.mem_map.mp member
  exact other escritura written same

/-- No request writes it, however far it gets. -/
theorem Ajeno.atiende (ajeno : Ajeno registro) (x : Externo) (e : Esp32) (p : Peticion)
    : (e.atiende x p).nvs.get registro = e.nvs.get registro := by
  rcases nvs_atiende x e p with same | written
  · rw [same]
  · rw [written]
    exact get_writeAll_ajeno (ajeno.peticion x e.web.dev p)

theorem Ajeno.apagon (ajeno : Ajeno registro) (x : Externo) (e : Esp32) (p : Peticion) (k : Nat)
    : (e.apagon x p k).nvs.get registro = e.nvs.get registro := by
  rcases e.apagon_cases x p k with same | same
  · rw [same]
    rfl
  · rw [same]
    exact get_writeAll_ajeno fun escritura member =>
      ajeno.peticion x e.web.dev p escritura (List.mem_of_mem_take member)

end Ajeno

/-- What the notes of an event become when the card boots, or when the event does not concern the
client.
-/
theorem AlDia.recien {x : Externo} {e e' : Esp32} {evento : Evento} {l : Libro}
    (recien : Recien e')
    (vigente : e'.nvs.get tokenTrama
      = if borra e evento then none else (otorgado x e evento).or l.vigente)
    : AlDia e' (l.anota x e evento e') := by
  refine ⟨vigente, ?_, recien.largo, recien.respuesta, fun _ => ⟨recien.tareas, ?_⟩⟩
  · rw [recien.tramas, Libro.anota, recien.arrancado]
    rfl
  · rw [Libro.anota, recien.arrancado]
    rfl

theorem AlDia.aparte {x : Externo} {e e' : Esp32} {evento : Evento} {l : Libro}
    (alDia : AlDia e l) (aparte : Aparte e e') (token : e'.nvs.get tokenTrama = e.nvs.get tokenTrama)
    (conserva : borra e evento = false) (nada : otorgado x e evento = none)
    : AlDia e' (l.anota x e evento e') := by
  have notes : (l.anota x e evento e').concedidos = l.concedidos := by
    rw [Libro.anota, aparte.arrancado, nada]
    cases on : e.arrancado with
    | true => exact List.append_nil _
    | false => exact (alDia.parada on).2.symm
  refine ⟨?_, ?_, ?_, aparte.cliente ▸ alDia.respuesta, fun off => ?_⟩
  · rw [token, alDia.vigente, Libro.anota, conserva, nada]
    rfl
  · rw [aparte.cliente, notes]
    exact alDia.tramas
  · rw [aparte.cliente]
    exact alDia.largo
  · rw [aparte.tareas, notes]
    exact alDia.parada (aparte.arrancado ▸ off)

/-- What a round of the client does with the card, by what its login is told and by how its frame
goes.
-/
inductive Ronda (x : Externo) (e : Esp32) (login : Client.Intento) : Esp32 → Prop
  | reinicia (nada : concede x e login = none) : Ronda x e login e.reinicio
  | rehusada (nada : concede x e login = none) {c : Client.Cliente} (nvs : c.nvs = e.nvs)
    (largo : c.outputLen = 0) (respuesta : ∃ cuerpo, Client.Guarda c.localResponseBuffer cuerpo)
    (tramas : c.tramas = e.cliente.tramas)
    : Ronda x e login (e.conCliente c)
  | cortada {token : Str} (concedido : concede x e login = some token) {c : Client.Cliente}
    (nvs : c.nvs.get tokenTrama = some token)
    : Ronda x e login (e.conCliente c).reinicio
  | enviada {token : Str} (concedido : concede x e login = some token) {c : Client.Cliente}
    {envio : Client.Envio} (nvs : c.nvs.get tokenTrama = some token) (largo : c.outputLen = 0)
    (respuesta : ∃ cuerpo, Client.Guarda c.localResponseBuffer cuerpo)
    (lleva : envio.accessToken = some token)
    (tramas : c.tramas = e.cliente.tramas ++ [envio])
    : Ronda x e login (e.conCliente c)

/-- A frame is sent with the stored token, or it cannot be sent. -/
theorem ronda_trama {x : Externo} {e : Esp32} {login : Client.Intento} {token : Str}
    (concedido : concede x e login = some token) {c : Client.Cliente} (reset : c.outputLen = 0)
    (respuesta : ∃ cuerpo, Client.Guarda c.localResponseBuffer cuerpo)
    (nvs : c.nvs.get tokenTrama = some token) (tramas : c.tramas = e.cliente.tramas)
    (trama : Client.Intento)
    : Ronda x e login
        (match Client.httptrama c e.web.dev.webBuffer trama with
        | none => (e.conCliente c).reinicio
        | some c => e.conCliente c) := by
  cases sent : Client.httptrama c e.web.dev.webBuffer trama with
  | none => exact .cortada concedido nvs
  | some tras =>
      obtain ⟨url, -, -, -, rfl⟩ := (Client.httptrama_iff reset).mp sent
      exact .enviada concedido nvs reset respuesta nvs
        (congrArg (· ++ [(⟨_, _, _⟩ : Client.Envio)]) tramas)

/-- The response to a login fits the buffer of the client, and is judged by what it says itself. -/
structure Leida (x : Externo) (c : Client.Cliente) (login : Client.Intento) : Prop where
  cabe : Client.Cabe c.localResponseBuffer login
  juicio : Client.juicio x.parse c login = some ((login.token x.parse).elim .rechazo .exito)
  respuesta : ∃ cuerpo, Client.Guarda (overlay c.localResponseBuffer login.copiado) cuerpo

/-- A round whose login, if it is sent, is judged as its own response says. -/
theorem ronda_httpRestWithUrl {x : Externo} {e : Esp32} (reset : e.cliente.outputLen = 0)
    {login : Client.Intento} (leida : e.peticionLogin ≠ none → Leida x e.cliente login)
    (trama : Client.Intento)
    : Ronda x e login (e.httpRestWithUrl x login trama) := by
  let c : Client.Cliente := { e.cliente with nvs := e.nvs }
  have reset' : c.outputLen = 0 := reset
  rw [Esp32.httpRestWithUrl]
  by_cases pide : e.peticionLogin = none
  · have stopped : Client.login x.parse c login = none := by
      by_contra goes
      obtain ⟨tras, entered⟩ := Option.ne_none_iff_exists'.mp goes
      exact ((Client.login_iff reset').mp entered).1 pide
    rw [stopped]
    exact .reinicia (by rw [concede, pide]; rfl)
  · obtain ⟨peticion, sent⟩ := Option.ne_none_iff_exists'.mp pide
    have own : concede x e login = login.token x.parse := by
      rw [concede, sent, Option.bind_some]
    obtain ⟨cabe, judged, respuesta⟩ := leida pide
    have entered : Client.login x.parse c login = some (c.tras login _) :=
      (Client.login_iff reset').mpr ⟨pide, cabe, _, judged, rfl⟩
    rw [entered]
    cases granted : login.token x.parse with
    | none => exact .rehusada (own.trans granted) rfl reset respuesta rfl
    | some token =>
        have held : (grabarNvs e.nvs tokenTrama token).get tokenTrama = some token :=
          e.nvs.get_write_self token (by decide)
        let tras : Client.Cliente := c.tras login (.exito token)
        exact ronda_trama (c := tras) (own.trans granted) reset respuesta held rfl trama

/-- A round of the client brings the notes up to date: a token that the login is granted is stored
and sent with the frame of the same round.
-/
theorem AlDia.login {x : Externo} {e : Esp32} {l : Libro} (alDia : AlDia e l)
    (tareas : e.tareas = true) {login : Client.Intento}
    (leida : e.peticionLogin ≠ none → Leida x e.cliente login) (trama : Client.Intento)
    : AlDia (e.httpRestWithUrl x login trama)
        (l.anota x e (.login login trama) (e.httpRestWithUrl x login trama)) := by
  have on : e.arrancado = true := by
    by_contra off
    have stopped := (alDia.parada (Bool.eq_false_iff.mpr off)).1
    rw [tareas] at stopped
    cases stopped
  have noted : otorgado x e (.login login trama) = concede x e login := if_pos tareas
  have ronda : Ronda x e login (e.httpRestWithUrl x login trama) :=
    ronda_httpRestWithUrl alDia.largo leida trama
  generalize e.httpRestWithUrl x login trama = e' at ronda ⊢
  cases ronda with
  | reinicia nada =>
      refine .recien (recien_reinicio e) ?_
      rw [noted, nada]
      exact alDia.vigente
  | @rehusada nada c nvs largo respuesta tramas =>
      have none' : otorgado x e (.login login trama) = none := noted.trans nada
      have booted : (e.conCliente c).arrancado = true := on
      refine ⟨?_, ?_, largo, respuesta, fun off => ?_⟩
      · rw [Libro.anota, none']
        exact (congrArg (·.get tokenTrama) nvs).trans alDia.vigente
      · rw [Libro.anota, none', booted, if_pos rfl, Option.toList_none, List.append_nil,
          ← alDia.tramas]
        exact congrArg (List.map Client.Envio.accessToken) tramas
      · rw [booted] at off
        cases off
  | cortada concedido nvs =>
      refine .recien (recien_reinicio _) ?_
      rw [noted, concedido]
      exact nvs
  | @enviada token concedido c envio nvs largo respuesta lleva tramas =>
      have booted : (e.conCliente c).arrancado = true := on
      refine ⟨?_, ?_, largo, respuesta, fun off => ?_⟩
      · rw [Libro.anota, noted, concedido]
        exact nvs
      · have sent : (e.conCliente c).cliente.tramas = e.cliente.tramas ++ [envio] := tramas
        rw [Libro.anota, noted, concedido, booted, if_pos rfl, List.map_append, ← alDia.tramas,
          sent, List.map_append, List.map_singleton, lleva]
        rfl
      · rw [booted] at off
        cases off

end EspHttpControl.Firmware
