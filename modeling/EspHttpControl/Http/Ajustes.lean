import EspHttpControl.Http.Registros

/-! The settings behave as independent registers.
An empty-body request to one of the five endpoints that report settings shows what the last
authenticated request to that endpoint posted.
-/

namespace EspHttpControl.Http

open CText Nvs Machines

/-- The endpoints that report what they store. -/
inductive Ajuste
  | trama | server | wifiap | wifist | sethttp
deriving DecidableEq, Repr

/-- The value of a setting, for a card on which it is stored. -/
def Device.valor (d : Device) (registro : String) : Str := (d.leerNvs registro).getD []

/-- A new card with an address and a value under every setting that is reported. -/
def configurada : Device :=
  { Device.nueva with
    nvs := Device.nueva.nvs.writeAll
      [("8_MACADRRWIFI", "a1a1a1a1".toList), ("1_TRAMA-TIME", "2000".toList),
        ("4_SERVERTIME", "30".toList), ("2_WIFI-AP-SSID", "red".toList),
        ("2_WIFI-AP-PASS", "clave".toList), ("2_WIFI-AP-IP", "10.0.0.1".toList),
        ("2_WIFI-ST-SSID", "casa".toList), ("2_WIFI-ST-PASS", "llave".toList),
        ("2_WIFI-ST-INTE", "3".toList), ("4_URL-TRAMA", "http://t".toList),
        ("4_URL-LOGIN", "http://l".toList), ("4_TIMEOUT-HTTP", "8000".toList),
        ("4_TOKEN-TIME", "12".toList), ("4_SERVER-TIME", "30".toList)] }

namespace Ajuste

def endpoint : Ajuste → ConToken
  | .trama => .trama
  | .server => .server
  | .wifiap => .wifiap
  | .wifist => .wifist
  | .sethttp => .sethttp

/-- What a report should show: under each label, the posted member. -/
def campos : Ajuste → List (String × String)
  | .trama => [("TIME", "time")]
  | .server => [("Time_Server_ms", "time")]
  | .wifiap =>
    [("WIFI_AP_SSID", "WIFI_AP_SSID"), ("WIFI_AP_PASS", "WIFI_AP_PASS"),
      ("WIFI_AP_IP", "WIFI_AP_IP")]
  | .wifist =>
    [("WIFI_ST_SSID", "WIFI_ST_SSID"), ("WIFI_ST_PASS", "WIFI_ST_PASS"),
      ("WIFI_ST_INTENTOS", "WIFI_ST_INTENTOS")]
  | .sethttp =>
    [("URL_TRAMA", "URL_TRAMA"), ("URL_LOGIN", "URL_LOGIN"), ("TOKEN_SERVER", "TOKEN_SERVER"),
      ("TIMEOUT_HTTPCLIENT", "TIMEOUT_HTTPCLIENT"), ("TOKEN_TIME", "TOKEN_TIME"),
      ("SERVER_TIME", "SERVER_TIME")]

def publicado (root : Json) (miembro : String) : Str := (root.stringAt [miembro]).getD []

/-- The report of the posted values; the network name carries the address of the card. -/
def informado (E : Ajuste) (root : Json) (mac : Str) : Doc :=
  ("endpoint", E.endpoint.manejador.endpoint.toList) :: E.campos.map fun (nombre, miembro) =>
    (nombre, publicado root miembro ++ if nombre = "WIFI_AP_SSID" then '_' :: mac else [])

/-- The document posts a string under every member that the endpoint stores. -/
def Completo (E : Ajuste) (root : Json) : Prop :=
  ∀ campo ∈ E.campos, ∃ valor, root.stringAt [campo.2] = some valor

/-- The settings that the endpoint reports. -/
def registros : Ajuste → List String
  | .trama => ["1_TRAMA-TIME"]
  | .server => ["4_SERVERTIME"]
  | .wifiap => ["2_WIFI-AP-SSID", "2_WIFI-AP-PASS", "2_WIFI-AP-IP"]
  | .wifist => ["2_WIFI-ST-SSID", "2_WIFI-ST-PASS", "2_WIFI-ST-INTE"]
  | .sethttp =>
    ["4_URL-TRAMA", "4_URL-LOGIN", "5_TOK-HTTPSER", "4_TIMEOUT-HTTP", "4_TOKEN-TIME",
      "4_SERVER-TIME"]

/-- The report of an endpoint, as it answers an empty body: the settings under its labels. -/
def informeDe (E : Ajuste) (d : Device) : Option Doc :=
  informe E.endpoint.manejador.endpoint ((E.campos.map Prod.fst).zip E.registros) d

/-- `SERVER` sends a NULL answer behind its report, if there is one. -/
theorem vacio_eq (E : Ajuste) (d : Device)
    : E.endpoint.manejador.vacio d
      = .sendstr (E.informeDe d)
        :: if E = .server ∧ E.informeDe d ≠ none then [.vacia] else [] := by
  cases E with
  | trama | wifiap | wifist | sethttp => rfl
  | server =>
      have same : informe "SERVER" [("Time_Server_ms", "4_SERVERTIME")] d
          = Ajuste.server.informeDe d :=
        rfl
      simp only [endpoint, ConToken.manejador, serverHandler, same]
      cases Ajuste.server.informeDe d <;> rfl

/-- A card reports exactly if all the settings of the endpoint are stored. -/
theorem informeDe_eq_some {E : Ajuste} {d : Device} {doc : Doc}
    : E.informeDe d = some doc
      ↔ (∀ registro ∈ E.registros, d.leerNvs registro = some (d.valor registro))
        ∧ doc = ("endpoint", E.endpoint.manejador.endpoint.toList)
          :: ((E.campos.map Prod.fst).zip E.registros).map fun campo =>
            (campo.1, d.valor campo.2) := by
  have stored (registro : String)
      : d.leerNvs registro ≠ none ↔ d.leerNvs registro = some (d.valor registro) := by
    rw [Device.valor]
    cases d.leerNvs registro <;> simp
  have names : ((E.campos.map Prod.fst).zip E.registros).map Prod.snd = E.registros := by
    cases E <;> rfl
  rw [informeDe, informe_eq_some]
  refine and_congr_left fun _ => ?_
  rw [← List.forall_mem_map (f := Prod.snd) (P := fun registro => d.leerNvs registro ≠ none), names]
  exact forall₂_congr fun registro _ => stored registro

/-- What an accepted request stores: each setting with its value. -/
def pares (E : Ajuste) (root : Json) (mac : Str) : List (String × Str) :=
  E.registros.zip (E.campos.map fun (nombre, miembro) =>
    publicado root miembro ++ if nombre = "WIFI_AP_SSID" then '_' :: mac else [])

/-- The settings of an endpoint have different names, which the storage accepts. -/
theorem registros_wellFormed (E : Ajuste)
    : E.registros.Nodup ∧ ∀ registro ∈ E.registros, Admite registro := by
  cases E <;> decide +kernel

theorem pares_registros (E : Ajuste) (root : Json) (mac : Str)
    : (E.pares root mac).map Prod.fst = E.registros := by
  cases E <;> rfl

theorem registro_pares {E : Ajuste} {root : Json} {mac : Str} {par : String × Str}
    (member : par ∈ E.pares root mac)
    : par.1 ∈ E.registros := by
  simpa only [← pares_registros E root mac] using List.mem_map_of_mem member

/-- The orders of an accepted request store the posted values, by the endpoint. -/
theorem autenticado_ordenes {E : Ajuste} {root : Json} (completo : E.Completo root) {d : Device}
    {mac : Str} (direccion : E = .wifiap → d.leerNvs "8_MACADRRWIFI" = some mac)
    : ∃ pares : List (String × Str),
        pares.Perm (E.pares root mac)
        ∧ E.endpoint.manejador.autenticado d (E.endpoint.manejador.miembros.map root.stringAt)
          = some ((pares.map fun (registro, dato) => .grabar registro (some dato))
            ++ [.preparar (mensaje E.endpoint.manejador.endpoint "Data saved..")]) := by
  cases E with
  | trama =>
      obtain ⟨valor, posted⟩ := completo ("TIME", "time") (by simp [campos])
      refine ⟨_, .refl _, ?_⟩
      simp [pares, endpoint, ConToken.manejador, tramaHandler, guarda, registros, campos, posted,
        publicado]
  | server =>
      obtain ⟨valor, posted⟩ := completo ("Time_Server_ms", "time") (by simp [campos])
      refine ⟨_, .refl _, ?_⟩
      simp [pares, endpoint, ConToken.manejador, serverHandler, guarda, registros, campos, posted,
        publicado]
  | wifiap =>
      obtain ⟨ssid, postedSsid⟩ := completo ("WIFI_AP_SSID", "WIFI_AP_SSID") (by simp [campos])
      obtain ⟨pass, postedPass⟩ := completo ("WIFI_AP_PASS", "WIFI_AP_PASS") (by simp [campos])
      obtain ⟨ip, postedIp⟩ := completo ("WIFI_AP_IP", "WIFI_AP_IP") (by simp [campos])
      refine ⟨_, .refl _, ?_⟩
      simp [pares, endpoint, ConToken.manejador, wifiapHandler, guarda, registros, campos,
        postedSsid, postedPass, postedIp, publicado, direccion rfl]
  | wifist =>
      obtain ⟨ssid, postedSsid⟩ := completo ("WIFI_ST_SSID", "WIFI_ST_SSID") (by simp [campos])
      obtain ⟨pass, postedPass⟩ := completo ("WIFI_ST_PASS", "WIFI_ST_PASS") (by simp [campos])
      obtain ⟨inte, postedInte⟩ :=
        completo ("WIFI_ST_INTENTOS", "WIFI_ST_INTENTOS") (by simp [campos])
      refine ⟨_, .refl _, ?_⟩
      simp [pares, endpoint, ConToken.manejador, wifistHandler, guarda, registros, campos,
        postedSsid, postedPass, postedInte, publicado]
  | sethttp =>
      obtain ⟨trama, postedTrama⟩ := completo ("URL_TRAMA", "URL_TRAMA") (by simp [campos])
      obtain ⟨login, postedLogin⟩ := completo ("URL_LOGIN", "URL_LOGIN") (by simp [campos])
      obtain ⟨token, postedToken⟩ :=
        completo ("TOKEN_SERVER", "TOKEN_SERVER") (by simp [campos])
      obtain ⟨timeout, postedTimeout⟩ :=
        completo ("TIMEOUT_HTTPCLIENT", "TIMEOUT_HTTPCLIENT") (by simp [campos])
      obtain ⟨time, postedTime⟩ := completo ("TOKEN_TIME", "TOKEN_TIME") (by simp [campos])
      obtain ⟨server, postedServer⟩ := completo ("SERVER_TIME", "SERVER_TIME") (by simp [campos])
      refine ⟨[("4_URL-TRAMA", trama), ("4_URL-LOGIN", login), ("4_TIMEOUT-HTTP", timeout),
        ("4_TOKEN-TIME", time), ("5_TOK-HTTPSER", token), ("4_SERVER-TIME", server)], ?_, ?_⟩
      · have stored : Ajuste.pares .sethttp root mac
            = [("4_URL-TRAMA", trama), ("4_URL-LOGIN", login), ("5_TOK-HTTPSER", token),
              ("4_TIMEOUT-HTTP", timeout), ("4_TOKEN-TIME", time), ("4_SERVER-TIME", server)] := by
          simp [pares, registros, campos, publicado, postedTrama, postedLogin, postedToken,
            postedTimeout, postedTime, postedServer]
        rw [stored]
        exact .cons _ (.cons _ (@List.perm_middle _ _ [_, _] [_]))
      · simp [endpoint, ConToken.manejador, sethttpHandler, guarda, postedTrama,
          postedLogin, postedToken, postedTimeout, postedTime, postedServer]

theorem informe_eq {E : Ajuste} {root : Json} {mac : Str} {d : Device}
    (held : ∀ par ∈ E.pares root mac, d.nvs.get par.1 = some par.2)
    : E.informeDe d = some (E.informado root mac) := by
  have read : ∀ par ∈ E.pares root mac, d.leerNvs par.1 = some par.2 := held
  cases E <;> simp_all [pares, informeDe, informe, informado, registros, campos]

theorem miembros_eq (E : Ajuste)
    : E.endpoint.manejador.miembros = E.campos.map fun campo => [campo.2] := by
  cases E <;> rfl

/-- The device holds the posted values and the token. -/
structure Vigente (E : Ajuste) (token : Str) (root : Json) (mac : Str) (d : Device) : Prop where
  token : d.tokenHttser = some token
  nvs : ∀ par ∈ E.pares root mac, d.nvs.get par.1 = some par.2

/-- An accepted request in one piece stores the posted values and leaves the token in force.
Witness: one turn of the loop, whose orders are the writes of the posted values.
-/
theorem publicacion {parse : Str → Option Json} {E : Ajuste} {root : Json} {d : Device}
    {token mac : Str} {datos resto : List Char} (esperas : Nat) (cola : List Recepcion)
    (ne : datos ≠ []) (documento : parse (cstr (datos ++ resto)) = some root)
    (vigente : d.tokenHttser = some token) (autentica : root.stringAt ["token"] = some token)
    (completo : E.Completo root)
    (direccion : E = .wifiap → d.leerNvs "8_MACADRRWIFI" = some mac)
    : (servir parse d (.enUnaPieza E.endpoint esperas datos resto cola)).fin = .ok
      ∧ Vigente E token root mac
          (servir parse d (.enUnaPieza E.endpoint esperas datos resto cola)).dev := by
  obtain ⟨pares, perm, ordenes⟩ := autenticado_ordenes completo direccion
  have leidos : leeMiembros root (["token"] :: E.endpoint.manejador.miembros)
      = some (some token :: E.endpoint.manejador.miembros.map root.stringAt) := by
    apply leeMiembros_autentica autentica
    intro path member
    rw [miembros_eq] at member
    obtain ⟨campo, known, rfl⟩ := List.mem_map.mp member
    exact completo campo known
  have turno : E.endpoint.manejador.atiende parse ⟨d, none, []⟩ (cstr (datos ++ resto))
      = .ok ⟨{ d with nvs := d.nvs.writeAll pares },
          some (mensaje E.endpoint.manejador.endpoint "Data saved.."), []⟩ := by
    simp only [Manejador.atiende, documento, leidos, loginCorrecto_eq_true.mpr vigente,
      Manejador.aceptada, ordenes, ejecuta_grabar, Curso.ejecuta]
  rw [Peticion.enUnaPieza, servir, Manejador.handler_una_pieza esperas cola ne, turno]
  refine ⟨rfl, vigente, fun par member => ?_⟩
  have names : (pares.map Prod.fst).Perm E.registros :=
    pares_registros E root mac ▸ perm.map Prod.fst
  exact Registers.Store.get_writeAll_of_mem (names.nodup_iff.mpr E.registros_wellFormed.1)
    (perm.mem_iff.mpr member) (E.registros_wellFormed.2 _ (registro_pares member)) d.nvs

-----------------------------------------------------------------------------------------
-- The requests behind it
-----------------------------------------------------------------------------------------

/-- The requests among which the settings are independent: all but the two resets. -/
def Permitida (p : Peticion) : Prop :=
  ∀ contentLen recepciones, p ≠ .conToken .resetesp contentLen recepciones
    ∧ p ≠ .conToken .defaultesp contentLen recepciones

def EsDe (E : Ajuste) (p : Peticion) : Prop :=
  ∃ contentLen recepciones, p = .conToken E.endpoint contentLen recepciones

/-- No other endpoint but the reset to defaults writes a setting that this one reports, by
comparing the names of every pair.
-/
theorem registros_ajenos {E : Ajuste} {otro : ConToken} (ne : otro ≠ E.endpoint)
    (reset : otro ≠ .defaultesp)
    : ∀ registro ∈ E.registros, registro ∉ otro.escribe := by
  revert ne reset
  cases E <;> cases otro <;> decide +kernel

/-- The address and the name that `/VERSION` writes are reported nowhere. -/
theorem registros_version (E : Ajuste) : ∀ registro ∈ E.registros, registro ∉ registrosVersion := by
  cases E <;> decide +kernel

/-- A request that is not an authenticated one to the endpoint leaves what it reports, by the
endpoint of the request.
-/
theorem servir_ajeno {parse : Str → Option Json} {E : Ajuste} {d : Device} {p : Peticion}
    (permitida : Permitida p) (ajena : EsDe E p → SinToken parse d.tokenHttser p)
    : ∀ registro ∈ E.registros,
        (servir parse d p).dev.nvs.get registro = d.nvs.get registro := by
  have frame := (servir_marco parse d p).nvs
  cases p with
  | conToken otro contentLen recepciones =>
      by_cases same : otro = E.endpoint
      · intro registro _
        have sin := ajena ⟨contentLen, recepciones, by rw [same]⟩
        rw [servir, (Manejador.handler_inerte sin).1]
      · have reset : otro ≠ .defaultesp := by
          rintro rfl
          exact (permitida contentLen recepciones).2 rfl
        exact fun registro member => frame registro (registros_ajenos same reset registro member)
  | version => exact fun registro member => frame registro (registros_version E registro member)
  | webbuffer => exact fun registro _ => frame registro List.not_mem_nil
  | ds18b20 => exact fun registro _ => frame registro List.not_mem_nil
  | punto punto => exact fun registro _ => frame registro List.not_mem_nil
  | echo contentLen recepciones => exact fun registro _ => frame registro List.not_mem_nil
  | ctrl recepciones => exact fun registro _ => frame registro List.not_mem_nil
  | download uri directorio => exact fun registro _ => frame registro List.not_mem_nil

/-- A request behind the last authenticated one keeps the posted values. -/
theorem vigente_step {parse : Str → Option Json} {E : Ajuste} {token : Str} {root : Json}
    {mac : Str} {d d' : Device} {p : Peticion} (permitida : Permitida p)
    (ajena : EsDe E p → SinToken parse (some token) p) (vigente : Vigente E token root mac d)
    (h : (servidor parse).step d p = some d')
    : Vigente E token root mac d' := by
  obtain rfl := Option.some.inj h
  refine ⟨(servir_marco parse d p).token.trans vigente.token, fun par member => ?_⟩
  rw [← vigente.token] at ajena
  rw [servir_ajeno permitida ajena par.1 (registro_pares member)]
  exact vigente.nvs par member

/-- Requests leave the token in force, by the run rule. -/
theorem servidor_token {parse : Str → Option Json} {d d' : Device} {ps : List Peticion}
    (h : (servidor parse).run d ps = some d')
    : d'.tokenHttser = d.tokenHttser := by
  have preserved : ∀ visitado p siguiente, visitado.tokenHttser = d.tokenHttser
      → (servidor parse).step visitado p = some siguiente
      → siguiente.tokenHttser = d.tokenHttser := by
    intro visitado p siguiente same taken
    obtain rfl := Option.some.inj taken
    exact (servir_marco parse visitado p).token.trans same
  exact Machine.invariant_run preserved rfl h

/-- In every sequence of requests, an empty-body request to one of the endpoints reports the
values of the last authenticated request to it, whatever came in between. Witness: the accepted
request stores the posted values and every later request keeps them.
-/
theorem ajustes_independientes {parse : Str → Option Json} (E : Ajuste) {d d₁ d₂ : Device}
    {antes despues : List Peticion} {root : Json} {token mac : Str} {datos resto : List Char}
    (esperas : Nat) (cola recepciones : List Recepcion)
    (previa : (servidor parse).run d antes = some d₁) (ne : datos ≠ [])
    (documento : parse (cstr (datos ++ resto)) = some root)
    (vigente : d.tokenHttser = some token) (autentica : root.stringAt ["token"] = some token)
    (completo : E.Completo root)
    (direccion : E = .wifiap → d₁.leerNvs "8_MACADRRWIFI" = some mac)
    (ultima : ∀ p ∈ despues, Permitida p ∧ (EsDe E p → SinToken parse d.tokenHttser p))
    (entera : (servidor parse).run d
        (antes ++ .enUnaPieza E.endpoint esperas datos resto cola :: despues)
      = some d₂)
    : (servir parse d₂ (.conToken E.endpoint 0 recepciones)).enviados.head?
      = some (.documento (E.informado root mac)) := by
  have fuerza : d₁.tokenHttser = some token := (servidor_token previa).trans vigente
  obtain ⟨middle, reached, later⟩ := (servidor parse).run_split entera
  obtain rfl := Option.some.inj (previa.symm.trans reached)
  have start := (publicacion esperas cola ne documento fuerza autentica completo direccion).2
  rw [vigente] at ultima
  have held := Machine.invariant_run_of_inputs
    (fun _ _ _ ok inv taken => vigente_step ok.1 ok.2 inv taken) ultima start later
  rw [servir, Manejador.handler, if_pos rfl, vacio_eq, informe_eq held.nvs]
  rfl

/-- The time that one request posts is reported after the address was stored. -/
theorem ajustes_independientes_trama
    : let dev := Device.nueva.enServicio "secreto".toList
      let publica := Peticion.enUnaPieza .trama 1
        "\x7b\"token\":\"secreto\",\"time\":\"900\"\x7d".toList [nul] []
      ∃ d, (servidor (JsonText.parse atoi)).run dev [.webbuffer, publica, .version] = some d
        ∧ (servir (JsonText.parse atoi) d (.conToken .trama 0 [])).enviados.head?
          = some (.documento [("endpoint", "TRAMA".toList), ("TIME", "900".toList)]) := by
  intro dev publica
  have completo : Ajuste.trama.Completo (.object [("token".toList, .string "secreto".toList),
      ("time".toList, .string "900".toList)]) := by
    intro campo member
    obtain rfl := List.mem_singleton.mp member
    exact ⟨"900".toList, by decide +kernel⟩
  have ultima : ∀ p ∈ [Peticion.version], Permitida p
      ∧ (EsDe .trama p → SinToken (JsonText.parse atoi) dev.tokenHttser p) := by
    intro p member
    obtain rfl := List.mem_singleton.mp member
    exact ⟨fun _ _ => ⟨nofun, nofun⟩, fun ⟨_, _, same⟩ => nomatch same⟩
  have entera := servidor_run (JsonText.parse atoi) dev [.webbuffer, publica, .version]
  have previa := servidor_run (JsonText.parse atoi) dev [.webbuffer]
  have informe := @ajustes_independientes _ .trama _ _ _ _ _ _ _ [] _ _ 1 [] [] previa
    (by decide) rfl rfl (by decide +kernel) completo nofun ultima entera
  have posted : publicado (.object [("token".toList, .string "secreto".toList),
      ("time".toList, .string "900".toList)]) "time" = "900".toList := by
    decide +kernel
  simp only [informado, campos, List.map_singleton, posted] at informe
  exact ⟨_, entera, informe⟩

end Ajuste

end EspHttpControl.Http
