import EspHttpControl.Http.Token

/-! What a client can do with the report of an endpoint.
A report lists the stored settings under the names that a request posts, so it can be sent back;
and the one of `SETHTTP`, which needs no token, lists the token.
-/

namespace EspHttpControl.Http

open CText Nvs Machines

/-- A report as the document of a request, under a token. -/
def devuelto (doc : Doc) (token : Str) : Json :=
  .object (("token".toList, .string token)
    :: doc.map fun (nombre, valor) => (nombre.toList, .string valor))

/-- The setting that a posted member becomes. -/
def Ajuste.origen (E : Ajuste) : List (String × String) := (E.campos.map Prod.snd).zip E.registros

theorem devuelto_token (doc : Doc) (token : Str)
    : (devuelto doc token).stringAt ["token"] = some token := rfl

section Reportado

variable {E : Ajuste} {d : Device} {doc : Doc}

/-- The members of a report that is sent back, by the endpoint; names are compared without regard
to case. That of `SERVER` posts the time under another name.
-/
theorem devuelto_miembro (other : E ≠ .server) (reportado : E.informeDe d = some doc) (token : Str)
    : ∀ par ∈ E.origen, (devuelto doc token).stringAt [par.1] = some (d.valor par.2) := by
  obtain ⟨-, rfl⟩ := Ajuste.informeDe_eq_some.mp reportado
  refine List.map_inj_left.mp ?_
  cases E with
  | server => exact absurd rfl other
  | trama | wifiap | wifist | sethttp => rfl

theorem Ajuste.completo_devuelto (other : E ≠ .server) (reportado : E.informeDe d = some doc)
    (token : Str)
    : E.Completo (devuelto doc token) := by
  intro campo member
  have posted : ∀ campo ∈ E.campos, ∃ registro, (campo.2, registro) ∈ E.origen := by
    cases E <;> simp [Ajuste.origen, Ajuste.campos, Ajuste.registros]
  obtain ⟨registro, known⟩ := posted campo member
  exact ⟨_, devuelto_miembro other reportado token (campo.2, registro) known⟩

/-- What a report that is sent back stores: the reported values, with the address behind the name
of the network.
-/
theorem Ajuste.pares_devuelto (other : E ≠ .server) (reportado : E.informeDe d = some doc)
    (token mac : Str)
    : E.pares (devuelto doc token) mac
      = E.registros.map fun registro =>
          (registro, d.valor registro
            ++ if registro = "2_WIFI-AP-SSID" then '_' :: mac else []) := by
  obtain ⟨-, rfl⟩ := Ajuste.informeDe_eq_some.mp reportado
  cases E with
  | server => exact absurd rfl other
  | trama | wifiap | wifist | sethttp => rfl

end Reportado

-----------------------------------------------------------------------------------------
-- Sending a report back
-----------------------------------------------------------------------------------------

/-- The report of one card, sent to another under the token of the latter, takes over the reported
settings; the name of the network gets the address of the other card behind it. The report of
`SERVER` stops the handler instead, which looks for a member that the report does not have.
-/
theorem informe_restaura {parse : Str → Option Json} (E : Ajuste) {a b : Device} {doc : Doc}
    {token mac : Str} {datos resto : List Char} (esperas : Nat) (cola : List Recepcion)
    (ne : datos ≠ []) (reportado : E.informeDe a = some doc)
    (documento : parse (cstr (datos ++ resto)) = some (devuelto doc token))
    (vigente : b.tokenHttser = some token)
    (direccion : E = .wifiap → b.leerNvs "8_MACADRRWIFI" = some mac)
    : (E = .server
        → (servir parse b (.enUnaPieza E.endpoint esperas datos resto cola)).fin = .nullPointer
          ∧ (servir parse b (.enUnaPieza E.endpoint esperas datos resto cola)).dev = b)
      ∧ (E ≠ .server
        → (servir parse b (.enUnaPieza E.endpoint esperas datos resto cola)).fin = .ok
          ∧ ∀ registro ∈ E.registros, ∃ valor, a.nvs.get registro = some valor
            ∧ (servir parse b (.enUnaPieza E.endpoint esperas datos resto cola)).dev.nvs.get registro
              = some (valor ++ if registro = "2_WIFI-AP-SSID" then '_' :: mac else []))
      ∧ (E ≠ .server → E ≠ .wifiap
        → E.informeDe (servir parse b (.enUnaPieza E.endpoint esperas datos resto cola)).dev
          = some doc) := by
  have aceptada (other : E ≠ .server) := Ajuste.publicacion esperas cola ne documento vigente
    (devuelto_token doc token) (Ajuste.completo_devuelto other reportado token) direccion
  have stored (other : E ≠ .server) (registro : String) (known : registro ∈ E.registros)
      : (servir parse b (.enUnaPieza E.endpoint esperas datos resto cola)).dev.nvs.get registro
        = some (a.valor registro ++ if registro = "2_WIFI-AP-SSID" then '_' :: mac else []) := by
    have held := (aceptada other).2.nvs
    rw [Ajuste.pares_devuelto other reportado] at held
    exact held _ (List.mem_map_of_mem known)
  obtain ⟨guardados, forma⟩ := Ajuste.informeDe_eq_some.mp reportado
  refine ⟨?_, fun other => ⟨(aceptada other).1, fun registro known => ?_⟩, fun other named => ?_⟩
  · rintro rfl
    have missing : leeMiembros (devuelto doc token)
        (["token"] :: Ajuste.server.endpoint.manejador.miembros) = none := by
      rw [forma]
      rfl
    rw [Peticion.enUnaPieza, servir, Manejador.handler_una_pieza esperas cola ne]
    simp only [Manejador.atiende, documento, missing, Curso.termina, and_self]
  · exact ⟨a.valor registro, guardados registro known, stored other registro known⟩
  · have plain : ∀ registro ∈ E.registros, registro ≠ "2_WIFI-AP-SSID" := by
      revert named
      cases E <;> decide
    have kept : ∀ registro ∈ E.registros,
        (servir parse b (.enUnaPieza E.endpoint esperas datos resto cola)).dev.leerNvs registro
          = some (a.valor registro) := by
      intro registro known
      have held := stored other registro known
      rwa [if_neg (plain registro known), List.append_nil] at held
    have same : ∀ registro ∈ E.registros,
        (servir parse b (.enUnaPieza E.endpoint esperas datos resto cola)).dev.valor registro
          = a.valor registro := by
      intro registro known
      rw [Device.valor, kept registro known, Option.getD_some]
    refine Ajuste.informeDe_eq_some.mpr ⟨fun registro known => ?_, ?_⟩
    · rw [kept registro known, same registro known]
    · rw [forma]
      refine congrArg _ (List.map_congr_left fun campo member => ?_)
      rw [same campo.2 (List.of_mem_zip member).2]

/-- The report of the network of a house, sent under the token `secreto`. -/
def textoRed : Str :=
  "\x7b\"token\":\"secreto\",\"endpoint\":\"WIFIST\",\"WIFI_ST_SSID\":\"casa\",".toList
    ++ "\"WIFI_ST_PASS\":\"llave\",\"WIFI_ST_INTENTOS\":\"3\"\x7d".toList

set_option maxRecDepth 2000 in
theorem parse_textoRed
    : JsonText.parse atoi (cstr (textoRed ++ [nul]))
      = some (devuelto [("endpoint", "WIFIST".toList), ("WIFI_ST_SSID", "casa".toList),
          ("WIFI_ST_PASS", "llave".toList), ("WIFI_ST_INTENTOS", "3".toList)]
        "secreto".toList) :=
  rfl

/-- Witness: the report of a card in that house sets the network of a new one. -/
theorem informe_restaura_wifist
    : let nueva := Device.nueva.enServicio "secreto".toList
      let pide := Peticion.enUnaPieza .wifist 0 textoRed [nul] []
      Ajuste.wifist.informeDe conTokenA = some [("endpoint", "WIFIST".toList),
          ("WIFI_ST_SSID", "casa".toList), ("WIFI_ST_PASS", "llave".toList),
          ("WIFI_ST_INTENTOS", "3".toList)]
      ∧ (servir (JsonText.parse atoi) nueva pide).fin = .ok
      ∧ Ajuste.wifist.informeDe (servir (JsonText.parse atoi) nueva pide).dev
        = Ajuste.wifist.informeDe conTokenA := by
  intro nueva pide
  have reportado : Ajuste.wifist.informeDe conTokenA = some [("endpoint", "WIFIST".toList),
      ("WIFI_ST_SSID", "casa".toList), ("WIFI_ST_PASS", "llave".toList),
      ("WIFI_ST_INTENTOS", "3".toList)] := by
    decide +kernel
  have restaura := @informe_restaura (JsonText.parse atoi) .wifist conTokenA nueva _
    "secreto".toList [] textoRed [nul] 0 [] (by decide) reportado parse_textoRed rfl nofun
  exact ⟨reportado, (restaura.2.1 (by decide)).1,
    (restaura.2.2 (by decide) (by decide)).trans reportado.symm⟩

-----------------------------------------------------------------------------------------
-- The report that shows the token
-----------------------------------------------------------------------------------------

/-- The token in force is the stored one while a server runs. -/
def Coincide (w : Webserver) : Prop :=
  w.activos ≠ [] → w.serverData = true ∧ w.dev.tokenHttser = w.dev.leerNvs tokHttpser

/-- The event is no request that stores another token for the next boot: none under the token in
force to one of the two endpoints that write it.
-/
def SinCambio (parse : Str → Option Json) (w : Webserver) : Evento → Prop
  | .peticion p => (∃ contentLen recepciones, p = .conToken .sethttp contentLen recepciones
      ∨ p = .conToken .defaultesp contentLen recepciones) → SinToken parse w.dev.tokenHttser p
  | _ => True

/-- A request writes the stored token only at two endpoints, and there only under the token. -/
theorem servir_tokHttpser {parse : Str → Option Json} {w : Webserver} {p : Peticion}
    (callada : SinCambio parse w (.peticion p))
    : (servir parse w.dev p).dev.nvs.get tokHttpser = w.dev.nvs.get tokHttpser := by
  by_cases own : ∃ contentLen recepciones, p = .conToken .sethttp contentLen recepciones
      ∨ p = .conToken .defaultesp contentLen recepciones
  · exact (servir_sin_token (callada own)).1.nvs tokHttpser (by decide)
  · refine (servir_marco parse w.dev p).nvs tokHttpser fun member => ?_
    cases p with
    | conToken E contentLen recepciones =>
        have writers : ∀ E : ConToken, tokHttpser ∈ E.escribe → E = .sethttp ∨ E = .defaultesp := by
          intro E
          cases E <;> decide +kernel
        rcases writers E member with rfl | rfl
        · exact own ⟨contentLen, recepciones, Or.inl rfl⟩
        · exact own ⟨contentLen, recepciones, Or.inr rfl⟩
    | version => exact absurd member (by decide)
    | _ => exact absurd member List.not_mem_nil

/-- A call or a network event leaves the stored token. -/
theorem paso_leerNvs {w w' : Webserver} {suceso : Suceso} (h : w.paso suceso = some w')
    : w'.dev.leerNvs tokHttpser = w.dev.leerNvs tokHttpser := by
  obtain ⟨token, same⟩ := paso_dev h
  rw [same]
  rfl

/-- An event that stores no other token keeps the token in force the stored one, by the event. -/
theorem coincide_step {parse : Str → Option Json} {w w' : Webserver} {evento : Evento}
    (callada : SinCambio parse w evento) (coincide : Coincide w)
    (h : (tarjeta parse).step w evento = some w')
    : Coincide w' := by
  cases evento with
  | reinicio nvs =>
      obtain rfl := Option.some.inj h
      exact fun running => absurd rfl running
  | suceso suceso =>
      intro running
      have same := paso_leerNvs h
      rcases paso_carga h with sigue | carga
      · have before : w.activos ≠ [] := fun none' =>
          running (List.subset_nil.mp (none' ▸ sigue.activos))
        obtain ⟨datos, token⟩ := coincide before
        exact ⟨sigue.datos.trans datos, sigue.token.trans (token.trans same.symm)⟩
      · exact ⟨carga.datos, carga.token.trans same.symm⟩
  | peticion p =>
      obtain rfl := Option.some.inj h
      rw [Webserver.atiende]
      split
      · exact coincide
      · next running =>
        obtain ⟨datos, token⟩ := coincide running
        have stored : (servir parse w.dev p).dev.leerNvs tokHttpser = w.dev.leerNvs tokHttpser :=
          servir_tokHttpser callada
        have force := (servir_marco parse w.dev p).token
        dsimp only
        split
        · exact fun running => absurd rfl running
        · exact fun running => absurd rfl running
        · exact fun _ => ⟨datos, force.trans (token.trans stored.symm)⟩

/-- The token of a server is no secret. In every state of a card whose stored token has not been
replaced, and whose settings of `SETHTTP` are stored, an empty request to `SETHTTP`, under no token
at all, is answered with a document that shows the token in force, and under it every endpoint that
stores settings stores what the client chooses. By `coincide_step` along the run.
-/
theorem token_revelado {parse : Str → Option Json} {dev : Device} {eventos : List Evento}
    {w : Webserver}
    (callada : (tarjeta parse).Along (SinCambio parse) (Webserver.arranque dev) eventos)
    (reached : (tarjeta parse).run (Webserver.arranque dev) eventos = some w)
    (running : w.activos ≠ [])
    (guardados : ∀ registro ∈ Ajuste.sethttp.registros, w.dev.nvs.get registro ≠ none)
    : ∃ doc token,
        (servir parse w.dev (.conToken .sethttp 0 [])).enviados = [.documento doc]
        ∧ (servir parse w.dev (.conToken .sethttp 0 [])).dev = w.dev
        ∧ doc.lookup "TOKEN_SERVER" = some token
        ∧ loginCorrecto w.dev token = some true
        ∧ ∀ (E : Ajuste) (root : Json) (mac : Str) (datos resto : List Char) (esperas : Nat)
            (cola : List Recepcion),
          datos ≠ [] → parse (cstr (datos ++ resto)) = some root
          → root.stringAt ["token"] = some token → E.Completo root
          → (E = .wifiap → w.dev.nvs.get "8_MACADRRWIFI" = some mac)
          → (servir parse w.dev (.enUnaPieza E.endpoint esperas datos resto cola)).fin = .ok
            ∧ ∀ par ∈ E.pares root mac,
              (servir parse w.dev (.enUnaPieza E.endpoint esperas datos resto cola)).dev.nvs.get
                par.1 = some par.2 := by
  have start : Coincide (Webserver.arranque dev) := fun running => absurd rfl running
  have preserved (w : Webserver) (evento : Evento) (w' : Webserver)
      (callada : SinCambio parse w evento) (coincide : Coincide w)
      (taken : (tarjeta parse).step w evento = some w')
      : Coincide w' :=
    coincide_step callada coincide taken
  obtain ⟨-, token⟩ := Machine.invariant_run_of_guard preserved callada start reached running
  have valores : ∀ registro ∈ Ajuste.sethttp.registros,
      w.dev.leerNvs registro = some (w.dev.valor registro) := by
    intro registro known
    rw [Device.valor]
    cases held : w.dev.leerNvs registro with
    | none => exact absurd held (guardados registro known)
    | some valor => rfl
  have reportado := Ajuste.informeDe_eq_some.mpr ⟨valores, rfl⟩
  have vigente : w.dev.tokenHttser = some (w.dev.valor tokHttpser) :=
    token.trans (valores tokHttpser (by decide))
  have sent := congrArg (fun doc => [Respuesta.sendstr doc]) reportado
  refine ⟨_, w.dev.valor tokHttpser, sent, rfl, rfl, loginCorrecto_eq_true.mpr vigente, ?_⟩
  intro E root mac datos resto esperas cola ne documento autentica completo direccion
  obtain ⟨ok, held⟩ :=
    Ajuste.publicacion esperas cola ne documento vigente autentica completo direccion
  exact ⟨ok, held.nvs⟩

/-- Witness: the server of a card that was started with the token `A` shows it. -/
theorem token_revelado_nuevo
    : ∃ w doc, (tarjeta (JsonText.parse atoi)).run (Webserver.arranque conTokenA)
          [.suceso (.appMain ⟨true, true⟩)] = some w
        ∧ (servir (JsonText.parse atoi) w.dev (.conToken .sethttp 0 [])).enviados
          = [.documento doc]
        ∧ doc.lookup "TOKEN_SERVER" = w.dev.tokenHttser := by
  have callada : (tarjeta (JsonText.parse atoi)).Along (SinCambio (JsonText.parse atoi))
      (Webserver.arranque conTokenA) [.suceso (.appMain ⟨true, true⟩)] :=
    ⟨trivial, fun _ _ => trivial⟩
  obtain ⟨w, taken, activos, -, nvs⟩ := conTokenA_arranca (JsonText.parse atoi)
  have reached : (tarjeta (JsonText.parse atoi)).run (Webserver.arranque conTokenA)
      [.suceso (.appMain ⟨true, true⟩)] = some w := by
    rw [Machine.run_cons, taken]
    rfl
  have running : w.activos ≠ [] := activos ▸ List.cons_ne_nil 0 []
  have guardados : ∀ registro ∈ Ajuste.sethttp.registros, w.dev.nvs.get registro ≠ none := by
    rw [nvs]
    decide +kernel
  obtain ⟨doc, token, sent, -, shown, login, -⟩ :=
    token_revelado callada reached running guardados
  exact ⟨w, doc, reached, sent, shown.trans (loginCorrecto_eq_true.mp login).symm⟩

end EspHttpControl.Http
