import EspHttpControl.Http.Ajustes
import EspHttpControl.Http.Turno
import EspHttpControl.Http.Webserver

/-! The token in force over boots, starts of the server and requests.
The handlers compare with a copy that `start_webserver` takes of the stored token; `SETHTTP`
and `DEFAULTESP` rewrite the stored one only.
-/

namespace EspHttpControl.Http

open CText Nvs Machines

def tokHttpser : String := "5_TOK-HTTPSER"

/-- A boot, after which `app_main` goes on from the given storage; a card that was not
registered is erased and filled again before it starts its server.
-/
def Webserver.reinicio (w : Webserver) (nvs : Almacen) : Webserver :=
  { Webserver.arranque (Device.arranque nvs w.dev.archivos w.dev.mac) with
    siguiente := w.siguiente }

/-- A request: it needs a running server, and a handler that stops takes the card to a boot. -/
def Webserver.atiende (parse : Str → Option Json) (w : Webserver) (p : Peticion) : Webserver :=
  if w.activos = [] then w
  else
    let resultado := servir parse w.dev p
    let atendida := { w with dev := resultado.dev }
    match resultado.fin with
    | .restart => atendida.reinicio resultado.dev.nvs
    | .nullPointer => atendida.reinicio resultado.dev.nvs
    | _ => atendida

inductive Evento
  | reinicio (nvs : Almacen)
  | suceso (suceso : Suceso)
  | peticion (p : Peticion)

/-- The card over boots, starts, network events and requests. -/
def tarjeta (parse : Str → Option Json) : Machine Webserver Evento where
  step w
    | .reinicio nvs => some (w.reinicio nvs)
    | .suceso suceso => w.paso suceso
    | .peticion p => some (w.atiende parse p)

/-- The token in force and the servers are those of before, up to servers that stopped. -/
structure Sigue (w w' : Webserver) : Prop where
  token : w'.dev.tokenHttser = w.dev.tokenHttser
  datos : w'.serverData = w.serverData
  activos : w'.activos ⊆ w.activos

theorem Sigue.refl (w : Webserver) : Sigue w w := ⟨rfl, rfl, List.Subset.refl _⟩

/-- The token was loaded from the storage, with at most the next server started. -/
structure Carga (w w' : Webserver) : Prop where
  libre : w.serverData = false
  token : w'.dev.tokenHttser = w.dev.leerNvs tokHttpser
  datos : w'.serverData = true
  activos : w'.activos ⊆ w.siguiente :: w.activos

/-- `start_webserver` leaves the token and the servers or loads the token, whatever its caller
keeps of the result.
-/
theorem startWebserver_carga (w : Webserver) (suerte : Suerte) (server : Handle) (appMain : Bool)
    : Sigue w { (w.startWebserver suerte).2 with server := server, appMain := appMain }
      ∨ Carga w { (w.startWebserver suerte).2 with server := server, appMain := appMain } := by
  rw [Webserver.startWebserver]
  split
  · exact Or.inl ⟨rfl, rfl, List.Subset.refl _⟩
  · rename_i occupied
    have libre : w.serverData = false := by simpa using occupied
    split
    · exact Or.inl ⟨rfl, rfl, List.Subset.refl _⟩
    · split
      · exact Or.inr ⟨libre, rfl, rfl, List.Subset.refl _⟩
      · exact Or.inr ⟨libre, rfl, rfl, List.subset_cons_self _ _⟩

/-- A call or a network event leaves the token and the servers or loads the token, by the
cases of the step.
-/
theorem paso_carga {w w' : Webserver} {suceso : Suceso} (h : w.paso suceso = some w')
    : Sigue w w' ∨ Carga w w' := by
  cases suceso with
  | appMain suerte =>
      simp only [Webserver.paso] at h
      split at h
      · cases h
      · obtain rfl := Option.some.inj h
        exact startWebserver_carga w suerte _ _
  | disconnected =>
      simp only [Webserver.paso] at h
      split at h
      · obtain rfl := Option.some.inj h
        exact Or.inl (.refl w)
      · cases h
      · split at h
        · obtain rfl := Option.some.inj h
          exact Or.inl ⟨rfl, rfl, List.filter_subset_self _⟩
        · cases h
  | gotIp suerte =>
      simp only [Webserver.paso] at h
      split at h
      · obtain rfl := Option.some.inj h
        exact startWebserver_carga w suerte _ _
      · obtain rfl := Option.some.inj h
        exact Or.inl (.refl w)

/-- A request leaves the token and the servers, or no server runs any more. -/
theorem atiende_sigue (parse : Str → Option Json) (w : Webserver) (p : Peticion)
    : Sigue w (w.atiende parse p) ∨ (w.atiende parse p).activos = [] := by
  have token := (servir_marco parse w.dev p).token
  rw [Webserver.atiende]
  split
  · exact Or.inl (.refl w)
  · dsimp only
    split
    · exact Or.inr rfl
    · exact Or.inr rfl
    · exact Or.inl ⟨token, rfl, List.Subset.refl _⟩

/-- One event leaves the token and the servers, ends all servers, or is a start that loads
the token.
-/
theorem tarjeta_carga {parse : Str → Option Json} {w w' : Webserver} {evento : Evento}
    (h : (tarjeta parse).step w evento = some w')
    : Sigue w w' ∨ w'.activos = []
      ∨ ∃ suceso, evento = .suceso suceso ∧ Carga w w' := by
  cases evento with
  | reinicio nvs =>
      obtain rfl := Option.some.inj h
      exact Or.inr (Or.inl rfl)
  | suceso suceso =>
      rcases paso_carga h with sigue | carga
      · exact Or.inl sigue
      · exact Or.inr (Or.inr ⟨suceso, rfl, carga⟩)
  | peticion p =>
      obtain rfl := Option.some.inj h
      rcases atiende_sigue parse w p with sigue | ninguno
      · exact Or.inl sigue
      · exact Or.inr (Or.inl ninguno)

-----------------------------------------------------------------------------------------
-- Reachable states
-----------------------------------------------------------------------------------------

/-- In the course of the events, server `n` was started while the stored token was `valor`. -/
def Arrancado (parse : Str → Option Json) (dev : Device) (eventos : List Evento) (n : Nat)
    (valor : Option Str)
    : Prop :=
  ∃ antes suceso despues previo primero, eventos = antes ++ .suceso suceso :: despues
    ∧ (tarjeta parse).run (Webserver.arranque dev) antes = some previo
    ∧ previo.paso suceso = some primero ∧ n ∉ previo.activos ∧ n ∈ primero.activos
    ∧ previo.dev.leerNvs tokHttpser = valor

theorem Arrancado.append {parse : Str → Option Json} {dev : Device} {eventos : List Evento}
    {n : Nat} {valor : Option Str} (h : Arrancado parse dev eventos n valor) (mas : List Evento)
    : Arrancado parse dev (eventos ++ mas) n valor := by
  obtain ⟨antes, suceso, despues, previo, primero, rfl, rest⟩ := h
  exact ⟨antes, suceso, despues ++ mas, previo, primero, by simp, rest⟩

/-- Running servers have their data, and the token in force is the one that was stored when
they were started.
-/
structure Historia (parse : Str → Option Json) (dev : Device) (eventos : List Evento)
    (w : Webserver)
    : Prop where
  datos : w.activos ≠ [] → w.serverData = true
  arranque : ∀ n ∈ w.activos, Arrancado parse dev eventos n w.dev.tokenHttser

/-- One more event extends the history, by what it can do to the token in force. -/
theorem historia_step {parse : Str → Option Json} {dev : Device} {eventos : List Evento}
    {w w' : Webserver} {evento : Evento}
    (reached : (tarjeta parse).run (Webserver.arranque dev) eventos = some w)
    (historia : Historia parse dev eventos w) (h : (tarjeta parse).step w evento = some w')
    : Historia parse dev (eventos ++ [evento]) w' := by
  rcases tarjeta_carga h with sigue | ninguno | ⟨suceso, rfl, carga⟩
  · refine ⟨fun some' => ?_, fun n member => ?_⟩
    · rw [sigue.datos]
      apply historia.datos
      intro none'
      exact some' (List.subset_nil.mp (none' ▸ sigue.activos))
    · simpa only [sigue.token] using (historia.arranque n (sigue.activos member)).append [evento]
  · exact ⟨fun some' => absurd ninguno some', fun n member => by simp [ninguno] at member⟩
  · -- nothing ran before a start that loads the token
    have ninguno : w.activos = [] := by
      by_contra some'
      have data := historia.datos some'
      rw [carga.libre] at data
      cases data
    refine ⟨fun _ => carga.datos, fun n member => ?_⟩
    rw [carga.token]
    exact ⟨eventos, suceso, [], w, w', rfl, reached, h, by simp [ninguno], member, rfl⟩

theorem historia_run {parse : Str → Option Json} {dev : Device} {eventos : List Evento}
    {w : Webserver} (h : (tarjeta parse).run (Webserver.arranque dev) eventos = some w)
    : Historia parse dev eventos w := by
  have start : Historia parse dev [] (Webserver.arranque dev) :=
    ⟨fun some' => absurd rfl some', fun _ member => absurd member List.not_mem_nil⟩
  exact Machine.history_run start
    (fun _ _ _ _ reached historia taken => historia_step reached historia taken) h

/-- A request to `SETHTTP` that a running server accepts replaces the stored token and leaves
the token in force.
-/
theorem sethttp_aceptada {parse : Str → Option Json} {w : Webserver} {root : Json}
    {datos resto : List Char} (esperas : Nat) (cola : List Recepcion)
    (running : w.activos ≠ []) (ne : datos ≠ [])
    (documento : parse (cstr (datos ++ resto)) = some root)
    {token : Str} (fuerza : w.dev.tokenHttser = some token)
    (autentica : root.stringAt ["token"] = some token) (completo : Ajuste.sethttp.Completo root)
    : ∃ w', (tarjeta parse).step w (.peticion (.enUnaPieza .sethttp esperas datos resto cola))
            = some w'
        ∧ w'.activos = w.activos
        ∧ w'.dev.nvs.get tokHttpser = root.stringAt ["TOKEN_SERVER"]
        ∧ w'.dev.tokenHttser = w.dev.tokenHttser := by
  obtain ⟨ok, vigente⟩ := @Ajuste.publicacion _ .sethttp _ _ _ [] _ _ esperas cola ne documento
    fuerza autentica completo nofun
  have served : w.atiende parse (.enUnaPieza .sethttp esperas datos resto cola)
      = { w with
          dev := (servir parse w.dev (.enUnaPieza .sethttp esperas datos resto cola)).dev } := by
    rw [Webserver.atiende, if_neg running]
    dsimp only [Ajuste.endpoint] at ok ⊢
    rw [ok]
  refine ⟨_, congrArg some served, rfl, ?_, vigente.token.trans fuerza.symm⟩
  obtain ⟨nuevo, posted⟩ := completo ("TOKEN_SERVER", "TOKEN_SERVER") (by simp [Ajuste.campos])
  have held := vigente.nvs (tokHttpser, nuevo)
    (by simp [Ajuste.pares, Ajuste.registros, Ajuste.campos, Ajuste.publicado, posted, tokHttpser])
  exact held.trans posted.symm

-----------------------------------------------------------------------------------------
-- The branch of the right token
-----------------------------------------------------------------------------------------

/-- The end of a handler whose only turn took the branch of the right token. -/
def Manejador.responde (h : Manejador) (d : Device) (valores : List (Option Str)) : Resultado :=
  match h.aceptada ⟨d, none, []⟩ valores with
  | .error resultado => resultado
  | .ok c => c.responde

/-- The handlers compare with the token `valor`. In every turn whose items are there, whatever
turns were before it, they use a NULL token, or take the branch of the right token exactly under
`valor`; and a request in one piece is served as an authenticated one exactly under `valor`, and
refused without effect under any other token.
-/
structure Compara (parse : Str → Option Json) (d : Device) (valor : Option Str) : Prop where
  turno : ∀ (E : ConToken) (c : Curso) (texto : Str) (root : Json) (token : Str)
    (valores : List (Option Str)),
    c.dev = d → parse texto = some root
    → leeMiembros root (["token"] :: E.manejador.miembros) = some (some token :: valores)
    → E.manejador.atiende parse c texto
      = match valor with
        | none => .error (c.termina .nullPointer)
        | some valor =>
          if token = valor then E.manejador.aceptada c valores else .ok (E.manejador.rehusada c)
  peticion : ∀ (E : ConToken) (datos resto : List Char) (esperas : Nat) (cola : List Recepcion)
    (root : Json) (token : Str) (valores : List (Option Str)) (vigente : Str),
    datos ≠ [] → parse (cstr (datos ++ resto)) = some root
    → leeMiembros root (["token"] :: E.manejador.miembros) = some (some token :: valores)
    → valor = some vigente
    → (servir parse d (.enUnaPieza E esperas datos resto cola) = E.manejador.responde d valores
        ↔ token = vigente)
      ∧ (servir parse d (.enUnaPieza E esperas datos resto cola)
          = ⟨d, [.documento (malToken E)], .ok⟩ ↔ token ≠ vigente)

/-- The branch of the right token never answers that the token is wrong. -/
theorem malToken_responde (E : ConToken) (d : Device) (valores : List (Option Str))
    : .documento (malToken E) ∉ (E.manejador.responde d valores).enviados := by
  rw [Manejador.responde, Manejador.aceptada]
  cases chosen : E.manejador.autenticado d valores with
  | none => exact List.not_mem_nil
  | some ordenes =>
      have start : Limpio (malToken E) ⟨d, none, []⟩ :=
        ⟨(Option.some_ne_none _).symm, List.not_mem_nil⟩
      have limpio := ejecuta_limpio start fun doc member =>
        ((autenticado_formas chosen).1 doc member).2
      dsimp only
      rcases ran : Curso.ejecuta ⟨d, none, []⟩ ordenes with ⟨c, _ | fin⟩
      · rw [ran] at limpio
        intro member
        rcases List.mem_append.mp member with old | new
        · exact limpio.enviado old
        · exact sendstr_ne limpio.preparado (List.mem_singleton.mp new).symm
      · rw [ran] at limpio
        exact limpio.enviado

/-- The handlers compare with the copy of the token. -/
theorem compara_tokenHttser (parse : Str → Option Json) (d : Device)
    : Compara parse d d.tokenHttser := by
  have turno (E : ConToken) (c : Curso) (texto : Str) (root : Json) (token : Str)
      (valores : List (Option Str)) (same : c.dev = d) (parsed : parse texto = some root)
      (read : leeMiembros root (["token"] :: E.manejador.miembros)
        = some (some token :: valores))
      : E.manejador.atiende parse c texto
        = match d.tokenHttser with
          | none => .error (c.termina .nullPointer)
          | some valor =>
            if token = valor then E.manejador.aceptada c valores
            else .ok (E.manejador.rehusada c) := by
    simp only [Manejador.atiende, parsed, read, loginCorrecto, same]
    cases d.tokenHttser with
    | none => rfl
    | some valor =>
        by_cases igual : token = valor
        · simp [igual]
        · simp [igual, Ne.symm igual]
  refine ⟨turno, ?_⟩
  intro E datos resto esperas cola root token valores vigente ne parsed read fuerza
  have turn := turno E ⟨d, none, []⟩ _ root token valores rfl parsed read
  have other : E.manejador.responde d valores ≠ ⟨d, [.documento (malToken E)], .ok⟩ := by
    intro same
    have sin := malToken_responde E d valores
    rw [same] at sin
    exact sin (List.mem_singleton_self _)
  rw [Peticion.enUnaPieza, servir, Manejador.handler_una_pieza esperas cola ne, turn, fuerza]
  dsimp only
  by_cases igual : token = vigente
  · rw [if_pos igual]
    exact ⟨iff_of_true rfl igual, iff_of_false other (not_not.mpr igual)⟩
  · rw [if_neg igual]
    exact ⟨iff_of_false other.symm igual, iff_of_true rfl igual⟩

/-- In every reachable state with a running server, the handlers take a request for authenticated
exactly under the token that was stored when the server was started. A request to `SETHTTP` that
they accept replaces the stored token and leaves the accepted one. Witness: the history of the run
and the writes of the request.
-/
theorem token_del_arranque {parse : Str → Option Json} {dev : Device} {eventos : List Evento}
    {w : Webserver} {n : Nat}
    (h : (tarjeta parse).run (Webserver.arranque dev) eventos = some w) (vive : n ∈ w.activos)
    : ∃ valor, Arrancado parse dev eventos n valor
        ∧ Compara parse w.dev valor
        ∧ ∀ (root : Json) (token : Str) (datos resto : List Char) (esperas : Nat)
            (cola : List Recepcion),
          datos ≠ [] → parse (cstr (datos ++ resto)) = some root → valor = some token
          → root.stringAt ["token"] = some token → Ajuste.sethttp.Completo root
          → ∃ w', (tarjeta parse).step w
                (.peticion (.enUnaPieza .sethttp esperas datos resto cola)) = some w'
              ∧ w'.activos = w.activos
              ∧ w'.dev.nvs.get tokHttpser = root.stringAt ["TOKEN_SERVER"]
              ∧ Compara parse w'.dev valor := by
  refine ⟨w.dev.tokenHttser, (historia_run h).arranque n vive, compara_tokenHttser parse w.dev, ?_⟩
  intro root token datos resto esperas cola ne documento fuerza autentica completo
  obtain ⟨w', taken, activos, stored, kept⟩ :=
    sethttp_aceptada esperas cola (List.ne_nil_of_mem vive) ne documento fuerza autentica completo
  exact ⟨w', taken, activos, stored, kept ▸ compara_tokenHttser parse w'.dev⟩

/-- A card whose stored token is `A`. -/
def conTokenA : Device := { configurada with nvs := configurada.nvs.write tokHttpser ['A'] }

/-- A request to `SETHTTP` under the token `A` that posts the token `B`, and its document. -/
def textoCambio : Str :=
  "\x7b\"token\":\"A\",\"URL_TRAMA\":\"\",\"URL_LOGIN\":\"\",\"TOKEN_SERVER\":\"B\",".toList
    ++ "\"TIMEOUT_HTTPCLIENT\":\"\",\"TOKEN_TIME\":\"\",\"SERVER_TIME\":\"\"\x7d".toList

def cambioDeToken : Json :=
  .object [("token".toList, .string ['A']), ("URL_TRAMA".toList, .string []),
    ("URL_LOGIN".toList, .string []), ("TOKEN_SERVER".toList, .string ['B']),
    ("TIMEOUT_HTTPCLIENT".toList, .string []), ("TOKEN_TIME".toList, .string []),
    ("SERVER_TIME".toList, .string [])]

set_option maxRecDepth 2000 in
theorem parse_textoCambio
    : JsonText.parse atoi (cstr (textoCambio ++ [nul])) = some cambioDeToken := rfl

theorem cambioDeToken_completo : Ajuste.sethttp.Completo cambioDeToken := by
  intro campo member
  have all : ∀ campo ∈ Ajuste.sethttp.campos,
      (cambioDeToken.stringAt [campo.2]).isSome = true := by
    decide +kernel
  exact Option.isSome_iff_exists.mp (all campo member)

/-- That card starts its server with the token `A`. -/
theorem conTokenA_arranca (parse : Str → Option Json)
    : ∃ w, (tarjeta parse).step (Webserver.arranque conTokenA) (.suceso (.appMain ⟨true, true⟩))
            = some w
        ∧ w.activos = [0] ∧ w.dev.tokenHttser = some ['A'] ∧ w.dev.nvs = conTokenA.nvs := by
  have stored : conTokenA.leerNvs tokHttpser = some ['A'] := by decide +kernel
  exact ⟨_, rfl, rfl, stored, rfl⟩

/-- Witness: a card that was started with the token `A` refuses a time under the token `B`. -/
theorem token_del_arranque_nuevo
    : ∃ w, (tarjeta (JsonText.parse atoi)).run (Webserver.arranque conTokenA)
            [.suceso (.appMain ⟨true, true⟩)]
          = some w
        ∧ servir (JsonText.parse atoi) w.dev (.enUnaPieza .trama 0
            "\x7b\"token\":\"B\",\"time\":\"5\"\x7d".toList [nul] [])
          = ⟨w.dev, [.documento (malToken .trama)], .ok⟩ := by
  obtain ⟨w, taken, activos, token, -⟩ := conTokenA_arranca (JsonText.parse atoi)
  have reached : (tarjeta (JsonText.parse atoi)).run (Webserver.arranque conTokenA)
      [.suceso (.appMain ⟨true, true⟩)] = some w := by
    rw [Machine.run_cons, taken]
    rfl
  have vive : 0 ∈ w.activos := activos ▸ List.mem_singleton_self 0
  obtain ⟨valor, started, compara, -⟩ := token_del_arranque reached vive
  have loaded : valor = some ['A'] := by
    obtain ⟨antes, suceso, despues, previo, primero, eventos, antes', -, -, -, held⟩ := started
    obtain rfl : antes = [] := by
      cases antes with
      | nil => rfl
      | cons evento antes => simp at eventos
    obtain rfl : Webserver.arranque conTokenA = previo := Option.some.inj antes'
    rw [← held]
    decide +kernel
  refine ⟨w, reached, ?_⟩
  exact (compara.peticion .trama _ [nul] 0 [] _ ['B'] [some ['5']] ['A'] (by decide) rfl rfl
    loaded).2.mpr (by decide)

/-- After an accepted change from `A` to `B` a request under `A` is still an authenticated one. -/
theorem token_distinto_del_almacenado
    : ¬∀ (parse : Str → Option Json) (dev : Device) (eventos : List Evento) (w : Webserver),
        (tarjeta parse).run (Webserver.arranque dev) eventos = some w → w.activos ≠ []
        → ∀ (E : ConToken) (datos resto : List Char) (root : Json) (token : Str)
            (valores : List (Option Str)),
          datos ≠ [] → parse (cstr (datos ++ resto)) = some root
          → leeMiembros root (["token"] :: E.manejador.miembros) = some (some token :: valores)
          → (servir parse w.dev (.enUnaPieza E 0 datos resto [])
                = E.manejador.responde w.dev valores
              ↔ w.dev.nvs.get tokHttpser = some token) := by
  intro claim
  obtain ⟨w, started, activos, token, -⟩ := conTokenA_arranca (JsonText.parse atoi)
  have running : w.activos ≠ [] := activos ▸ List.cons_ne_nil 0 []
  obtain ⟨w', changed, activos', stored, token'⟩ := sethttp_aceptada 0 [] running
    (by decide : textoCambio ≠ []) parse_textoCambio token (by decide +kernel)
    cambioDeToken_completo
  have reached : (tarjeta (JsonText.parse atoi)).run (Webserver.arranque conTokenA)
      [.suceso (.appMain ⟨true, true⟩), .peticion (.enUnaPieza .sethttp 0 textoCambio [nul] [])]
        = some w' := by
    rw [Machine.run_cons, started, Option.bind_some, Machine.run_cons, changed]
    rfl
  have compara := compara_tokenHttser (JsonText.parse atoi) w'.dev
  have accepted := (compara.peticion .trama
    "\x7b\"token\":\"A\",\"time\":\"5\"\x7d".toList [nul] 0 [] _ ['A'] [some ['5']] ['A']
    (by decide) rfl rfl (token'.trans token)).1.mpr rfl
  have kept := (claim _ conTokenA _ w' reached (activos' ▸ running) .trama _ [nul] _ ['A']
    [some ['5']] (by decide) rfl rfl).mp accepted
  rw [stored] at kept
  exact absurd kept (by decide +kernel)

end EspHttpControl.Http
