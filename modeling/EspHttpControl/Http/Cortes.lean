import EspHttpControl.CText.JsonText
import EspHttpControl.Http.Turno

/-! Request bodies in pieces.
The receive loop parses every piece on its own, so what a request does depends on how the
network cut its body: a document can arrive in one piece, in a first piece with white space
behind it, or cut in two.
-/

namespace EspHttpControl.Http

open CText Nvs

/-- The calls of `httpd_req_recv` that bring a body: pieces that fit the buffer, each with a
terminator behind it, and timeouts in between. Later calls are not made.
-/
inductive Corta (bufSize : Nat) : List Recepcion → Str → Prop
  | fin (cola : List Recepcion) : Corta bufSize cola []
  | timeout {recepciones body} (rest : Corta bufSize recepciones body)
    : Corta bufSize (.timeout :: recepciones) body
  | pieza {datos resto recepciones body} (ne : datos ≠ []) (cabe : datos.length ≤ bufSize)
    (rest : Corta bufSize recepciones body)
    : Corta bufSize (.pieza datos (nul :: resto) :: recepciones) (datos ++ body)

/-- What becomes of the document: it arrives in one piece, its first piece is complete and
something follows it, or the first piece is no document.
-/
inductive Destino
  | entera | completa | partida
deriving DecidableEq, Repr

/-- The fate of a body, by the first piece that arrives. -/
def destino (parse : Str → Option Json) (body : Str) : List Recepcion → Destino
  | [] => .partida
  | .pieza datos _ :: _ =>
    if datos = body then .entera else if (parse datos).isSome then .completa else .partida
  | _ :: rest => destino parse body rest

structure Igual (left right : Resultado) : Prop where
  nvs : left.dev.nvs = right.dev.nvs
  log : left.dev.log = right.dev.log
  enviados : left.enviados = right.enviados

theorem Igual.refl (resultado : Resultado) : Igual resultado resultado := ⟨rfl, rfl, rfl⟩

theorem Igual.comm {left right : Resultado} : Igual left right ↔ Igual right left :=
  ⟨fun same => ⟨same.nvs.symm, same.log.symm, same.enviados.symm⟩,
    fun same => ⟨same.nvs.symm, same.log.symm, same.enviados.symm⟩⟩

/-- What the handler does: a complete document takes its turn, and what follows it is white
space.
-/
def Manejador.segun (h : Manejador) (d : Device) (root : Json) : Destino → Resultado
  | .partida => h.fallo ⟨d, none, []⟩
  | .entera =>
    match h.turno ⟨d, none, []⟩ root with
    | .error resultado => resultado
    | .ok c => c.responde
  | .completa =>
    match h.turno ⟨d, none, []⟩ root with
    | .error resultado => resultado
    | .ok c => h.fallo c

/-- When two fates come to the same: always when they are equal; when the handler stops at the
document, if both deliver it or the endpoint is `SERVER`, which stops at anything else too; when
the document has no effect, if both end with an error.
-/
def Mismo (E : ConToken) (d : Device) (root : Json) (left right : Destino) : Prop :=
  left = right
  ∨ (E = .server ∨ (left ≠ .partida ∧ right ≠ .partida)) ∧ Detiene E.manejador d root
  ∨ (left ≠ .entera ∧ right ≠ .entera) ∧ SinEfecto E.manejador d root

-----------------------------------------------------------------------------------------
-- The receive loop on a JSON text
-----------------------------------------------------------------------------------------

section Loop

variable {parse : Str → Option Json} {h : Manejador} {c : Curso}

theorem recibe_pieza {datos resto : List Char} {cola : List Recepcion} (ne : datos ≠ [])
    (remaining : Nat)
    : h.recibe parse (datos.length + remaining) (.pieza datos resto :: cola) c
      = match h.atiende parse c (cstr (datos ++ resto)) with
        | .error resultado => resultado
        | .ok c => h.recibe parse remaining cola c := by
  obtain ⟨byte, datos, rfl⟩ := List.exists_cons_of_ne_nil ne
  have count : (byte :: datos).length + remaining = datos.length + remaining + 1 := by
    rw [List.length_cons]
    omega
  cases turn : h.atiende parse c (cstr (byte :: datos ++ resto)) with
  | error resultado => simp only [count, Manejador.recibe, turn]
  | ok c => simp only [count, Manejador.recibe, turn, Nat.add_sub_cancel_left]

variable {numero : Str → Int32} {bufSize : Nat} {recepciones : List Recepcion}

/-- White space that remains ends the handler as a piece that is no document. -/
theorem recibe_blank {behind : Str} (corta : Corta bufSize recepciones behind)
    (blanco : behind.all JsonText.blank) (ne : behind ≠ [])
    : h.recibe (JsonText.parse numero) behind.length recepciones c = h.fallo c := by
  induction corta with
  | fin cola => exact absurd rfl ne
  | @timeout recepciones body rest ih =>
      obtain ⟨byte, body, rfl⟩ := List.exists_cons_of_ne_nil ne
      exact ih blanco ne
  | @pieza datos resto recepciones body some' cabe rest ih =>
      rw [List.all_append, Bool.and_eq_true] at blanco
      have free : nul ∉ datos := fun member => by
        have noBlank := List.all_eq_true.mp blanco.1 nul member
        revert noBlank
        decide
      rw [List.length_append, recibe_pieza some', cstr_append_nul free,
        atiende_fallo (JsonText.parse_blank blanco.1)]

/-- What a request does is told by the fate of its body, by the pieces up to the first one that
is not a timeout.
-/
theorem handler_destino {body : Str} {root : Json} (d : Device)
    (texto : JsonText.IsText numero body root) (corta : Corta bufSize recepciones body)
    : h.handler (JsonText.parse numero) d body.length recepciones
      = h.segun d root (destino (JsonText.parse numero) body recepciones) := by
  have ne : body ≠ [] := by
    rintro rfl
    cases texto.1
  rw [Manejador.handler, if_neg (by simpa using ne)]
  induction corta with
  | fin cola => exact absurd rfl ne
  | @timeout recepciones body rest ih =>
      obtain ⟨byte, body, rfl⟩ := List.exists_cons_of_ne_nil ne
      exact ih texto ne
  | @pieza datos resto recepciones behind some' cabe rest ih =>
      have free : nul ∉ datos := fun member =>
        texto.nul_free (List.mem_append_left behind member)
      rw [List.length_append, recibe_pieza some', cstr_append_nul free, destino]
      cases parsed : JsonText.parse numero datos with
      | none =>
          have other : datos ≠ datos ++ behind := fun same => by
            rw [same, texto.1] at parsed
            cases parsed
          rw [atiende_fallo parsed, if_neg other]
          rfl
      | some item =>
          rw [atiende_turno parsed]
          have fate := texto.parse_front parsed
          have same : h.turno ⟨d, none, []⟩ item = h.turno ⟨d, none, []⟩ root := by
            rcases fate with ⟨rfl, -⟩ | ⟨m, n, rfl, rfl⟩ <;> rfl
          rw [same]
          by_cases whole : datos = datos ++ behind
          · have nothing : behind = [] := List.self_eq_append_right.mp whole
            subst nothing
            rw [if_pos whole, Manejador.segun]
            cases h.turno ⟨d, none, []⟩ root with
            | error resultado => rfl
            | ok c => simp only [List.length_nil, Manejador.recibe]
          · have more : behind ≠ [] := fun nothing => whole (by simp [nothing])
            rw [if_neg whole, Option.isSome_some, if_pos rfl, Manejador.segun]
            cases turn : h.turno ⟨d, none, []⟩ root with
            | error resultado => rfl
            | ok c =>
                rcases fate with ⟨-, blanco⟩ | ⟨m, n, -, rfl⟩
                · exact recibe_blank rest blanco more
                · cases turn

end Loop

/-- A handler that stopped without the answer to a piece which is no document comes to the same
as one that met such a piece only at `SERVER`, which sends no such answer.
-/
theorem igual_fallo_iff {E : ConToken} {d : Device} {root : Json} {resultado : Resultado}
    (turn : E.manejador.turno ⟨d, none, []⟩ root = .error resultado)
    (sin : .documento (malJson E) ∉ resultado.enviados)
    : Igual resultado (E.manejador.fallo ⟨d, none, []⟩) ↔ E = .server := by
  rw [fallo_eq]
  constructor
  · intro same
    by_contra other
    have sent := same.enviados
    rw [if_neg other] at sent
    exact sin (sent ▸ List.mem_singleton_self _)
  · rintro rfl
    obtain ⟨rfl, none'⟩ := turno_server turn
    exact ⟨rfl, rfl, none'⟩

/-- The answer of a handler that went on is not the one to a piece which is no document. -/
theorem responde_ne_fallo {E : ConToken} {c otro : Curso} (limpio : Limpio (malJson E) c)
    (answered : otro.enviados.length ≤ c.enviados.length)
    : ¬Igual c.responde (E.manejador.fallo otro) := by
  intro same
  have sent := same.enviados
  rw [fallo_eq] at sent
  split at sent
  · have longer := congrArg List.length sent
    simp only [Curso.responde, List.length_append, List.length_singleton] at longer
    omega
  · have member : .documento (malJson E) ∈ c.responde.enviados := by
      simpa only [sent] using List.mem_append_right _ (List.mem_singleton_self _)
    rcases List.mem_append.mp member with old | new
    · exact limpio.enviado old
    · exact sendstr_ne limpio.preparado (List.mem_singleton.mp new).symm

/-- Behind a document a piece that is none ends as it does before one exactly if the document
had no effect.
-/
theorem fallo_igual_iff (E : ConToken) (antes c : Curso)
    : Igual (E.manejador.fallo c) (E.manejador.fallo antes) ↔ Quieto antes c := by
  rw [fallo_eq, fallo_eq]
  split
  · exact ⟨fun same => ⟨same.nvs, same.log, same.enviados⟩,
      fun same => ⟨same.nvs, same.log, same.enviados⟩⟩
  · exact ⟨fun same => ⟨same.nvs, same.log, List.append_cancel_right same.enviados⟩,
      fun same => ⟨same.nvs, same.log, congrArg (· ++ _) same.enviados⟩⟩

/-- Two fates come to the same exactly when `Mismo` says so, by the two ways in which the turn
of the document can go.
-/
theorem segun_igual_iff (E : ConToken) (d : Device) (root : Json) (left right : Destino)
    : Igual (E.manejador.segun d root left) (E.manejador.segun d root right)
      ↔ Mismo E d root left right := by
  rcases turno_cases E d root with ⟨detiene, efecto, resultado, turn, sin⟩
    | ⟨sigue, c, turn, limpio, efecto⟩
  · have stops := igual_fallo_iff turn sin
    have stops' := Igual.comm.trans stops
    cases left <;> cases right
      <;> simp [Manejador.segun, turn, Mismo, detiene, efecto, stops, stops', Igual.refl]
  · have behind := responde_ne_fallo limpio (Nat.le_refl _)
    have cut : ¬Igual c.responde (E.manejador.fallo ⟨d, none, []⟩) :=
      responde_ne_fallo limpio (Nat.zero_le _)
    have behind' := mt Igual.comm.mp behind
    have cut' := mt Igual.comm.mp cut
    have quieto := fallo_igual_iff E ⟨d, none, []⟩ c
    have quieto' := Igual.comm.trans quieto
    cases left <;> cases right
      <;> simp [Manejador.segun, turn, Mismo, sigue, efecto, behind, behind', cut, cut', quieto,
        quieto', Igual.refl]

-----------------------------------------------------------------------------------------
-- Two cuttings of one body
-----------------------------------------------------------------------------------------

/-- Two cuttings of a JSON text make the same changes and send the same answers exactly when
their fates come to the same. Witness: each request does what the fate of its body tells.
-/
theorem cortes_iff {numero : Str → Int32} (E : ConToken) (d : Device) {body : Str} {root : Json}
    {primero segundo : List Recepcion} (texto : JsonText.IsText numero body root)
    (corta : Corta E.manejador.bufSize primero body)
    (corta' : Corta E.manejador.bufSize segundo body)
    : Igual (E.manejador.handler (JsonText.parse numero) d body.length primero)
          (E.manejador.handler (JsonText.parse numero) d body.length segundo)
      ↔ Mismo E d root (destino (JsonText.parse numero) body primero)
          (destino (JsonText.parse numero) body segundo) := by
  rw [handler_destino d texto corta, handler_destino d texto corta', segun_igual_iff]

/-- An empty document stops `/TRAMA` whether or not its last blank arrives with it. -/
theorem cortes_iff_vacio
    : let dev := Device.nueva.enServicio "secreto".toList
      Igual
        (tramaHandler.handler (JsonText.parse atoi) dev 3
          [.timeout, .pieza ['\x7b', '\x7d', ' '] [nul]])
        (tramaHandler.handler (JsonText.parse atoi) dev 3
          [.pieza ['\x7b', '\x7d'] [nul], .pieza [' '] [nul]]) := by
  intro dev
  have texto : JsonText.IsText atoi ['\x7b', '\x7d', ' '] (.object []) := ⟨rfl, rfl⟩
  have entera : Corta ConToken.trama.manejador.bufSize
      [.timeout, .pieza ['\x7b', '\x7d', ' '] [nul]] ['\x7b', '\x7d', ' '] :=
    .timeout (.pieza (by decide) (by decide) (.fin []))
  have cortada : Corta ConToken.trama.manejador.bufSize
      [.pieza ['\x7b', '\x7d'] [nul], .pieza [' '] [nul]] ['\x7b', '\x7d', ' '] :=
    .pieza (by decide) (by decide) (.pieza (by decide) (by decide) (.fin []))
  have detiene : Detiene tramaHandler dev (.object []) := by
    intro ordenes asked
    cases asked
  exact (cortes_iff .trama dev texto entera cortada).mpr
    (Or.inr (Or.inl ⟨Or.inr (by decide +kernel), detiene⟩))

/-- A setting that is stored when it arrives in one piece is refused when it is cut. -/
theorem cortes_distintos
    : ¬∀ (numero : Str → Int32) (E : ConToken) (d : Device) (body : Str) (root : Json)
        (primero segundo : List Recepcion),
        JsonText.IsText numero body root → Corta E.manejador.bufSize primero body
        → Corta E.manejador.bufSize segundo body
        → Igual (E.manejador.handler (JsonText.parse numero) d body.length primero)
          (E.manejador.handler (JsonText.parse numero) d body.length segundo) := by
  intro claim
  let front : Str := "\x7b\"token\":\"\",".toList
  let behind : Str := "\"time\":\"5\"\x7d".toList
  have texto : JsonText.IsText atoi (front ++ behind)
      (.object [("token".toList, .string []), ("time".toList, .string ['5'])]) :=
    ⟨rfl, rfl⟩
  have entera : Corta ConToken.trama.manejador.bufSize [.pieza (front ++ behind) [nul]]
      (front ++ behind) := by
    have piece := @Corta.pieza 100 (front ++ behind) [] [] [] (by decide) (by decide) (.fin [])
    rw [List.append_nil] at piece
    exact piece
  have cortada : Corta ConToken.trama.manejador.bufSize
      [.pieza front [nul], .pieza behind [nul]] (front ++ behind) := by
    have piece := @Corta.pieza 100 behind [] [] [] (by decide) (by decide) (.fin [])
    rw [List.append_nil] at piece
    exact .pieza (by decide) (by decide) piece
  have sent :=
    (claim atoi .trama (Device.nueva.enServicio []) _ _ _ _ texto entera cortada).enviados
  exact absurd sent (by decide +kernel)

end EspHttpControl.Http
