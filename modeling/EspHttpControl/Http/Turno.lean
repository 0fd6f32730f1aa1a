import EspHttpControl.Http.Ordenes

/-! The turn of one piece in the receive loop: what its document asks for, and how the handler
goes on.
-/

namespace EspHttpControl.Http

open CText Nvs

/-- The orders of one document; `none` when an item is missing or a NULL string is used. -/
def Manejador.pide (h : Manejador) (d : Device) (root : Json) : Option (List Orden) :=
  match leeMiembros root (["token"] :: h.miembros) with
  | some (some token :: valores) =>
    match loginCorrecto d token with
    | none => none
    | some true => h.autenticado d valores
    | some false => some [.preparar (mensaje h.endpoint "Error token..")]
  | _ => none

/-- The document stops the handler in its turn. -/
def Detiene (h : Manejador) (d : Device) (root : Json) : Prop :=
  ∀ ordenes, h.pide d root = some ordenes → ordenes.any Orden.detiene

/-- The document is served without any effect before the answer. -/
def SinEfecto (h : Manejador) (d : Device) (root : Json) : Prop :=
  ∃ ordenes, h.pide d root = some ordenes ∧ ∀ orden ∈ ordenes, orden.Inocua d

/-- The end of a handler at a piece that is no document. -/
def Manejador.fallo (h : Manejador) (c : Curso) : Resultado :=
  if h.compruebaJson then
    { c with responhttp := some (mensaje h.endpoint "Error in JSON data") }.responde
  else c.termina .nullPointer

def Manejador.turno (h : Manejador) (c : Curso) (root : Json) : Except Resultado Curso :=
  match h.pide c.dev root with
  | none => .error (c.termina .nullPointer)
  | some ordenes =>
    match c.ejecuta ordenes with
    | (c, none) => .ok c
    | (c, some fin) => .error (c.termina fin)

section Pieza

variable {parse : Str → Option Json} {h : Manejador} {c : Curso} {texto : Str}

theorem atiende_turno {root : Json} (parsed : parse texto = some root)
    : h.atiende parse c texto = h.turno c root := by
  simp only [Manejador.atiende, parsed, Manejador.turno, Manejador.pide]
  rcases read : leeMiembros root (["token"] :: h.miembros) with
    _ | ⟨_ | ⟨_ | token, valores⟩⟩
  · rfl
  · rfl
  · rfl
  · rcases login : loginCorrecto c.dev token with _ | _ | _
    · simp only [login]
    · simp only [login, Curso.ejecuta, Manejador.rehusada]
    · cases chosen : h.autenticado c.dev valores with
      | none => simp only [login, Manejador.aceptada, chosen]
      | some ordenes =>
          rcases ran : c.ejecuta ordenes with ⟨next, _ | fin⟩
            <;> simp only [login, Manejador.aceptada, chosen, ran]

theorem atiende_fallo (parsed : parse texto = none)
    : h.atiende parse c texto = .error (h.fallo c) := by
  rw [Manejador.atiende, parsed, Manejador.fallo]
  dsimp only
  split <;> rfl

end Pieza

/-- No document asks for the answer to a piece that is none. -/
theorem pide_formas {E : ConToken} {d : Device} {root : Json} {ordenes : List Orden}
    (h : E.manejador.pide d root = some ordenes)
    : (∀ doc, .preparar doc ∈ ordenes → doc ≠ malJson E)
      ∧ (.enviar ∈ ordenes ∨ (ordenes.filterMap Orden.registro?).Nodup) := by
  rw [Manejador.pide] at h
  split at h
  · split at h
    · cases h
    · have formas := autenticado_formas h
      exact ⟨fun doc member => (formas.1 doc member).1, formas.2⟩
    · obtain rfl := Option.some.inj h
      refine ⟨fun doc member => ?_, Or.inr List.nodup_nil⟩
      rw [Orden.preparar.inj (List.mem_singleton.mp member)]
      simp [malJson]
  · cases h

section Ejecuta

variable {E : ConToken} {d : Device} {root : Json} {ordenes : List Orden} {c : Curso}

/-- Orders that end the handler stop it in its turn, and one of them has an effect. -/
theorem detiene_of_fin {fin : Fin} (asked : E.manejador.pide d root = some ordenes)
    (ran : Curso.ejecuta ⟨d, none, []⟩ ordenes = (c, some fin))
    : Detiene E.manejador d root ∧ ¬SinEfecto E.manejador d root := by
  have ended := ejecuta_detiene ordenes ⟨d, none, []⟩
  rw [ran] at ended
  constructor
  · intro otras some'
    obtain rfl := Option.some.inj (asked.symm.trans some')
    exact ended.symm
  · intro holds
    rcases holds with ⟨otras, some', all⟩
    obtain rfl := Option.some.inj (asked.symm.trans some')
    obtain ⟨orden, member, ends⟩ := List.any_eq_true.mp ended.symm
    rw [detiene_of_inocua (all orden member)] at ends
    cases ends

/-- Orders that run to their end have no effect exactly when nothing changes: a handler that
sends among them answers more, and the others store each setting once.
-/
theorem quieto_iff (asked : E.manejador.pide d root = some ordenes)
    (ran : Curso.ejecuta ⟨d, none, []⟩ ordenes = (c, none))
    : ¬Detiene E.manejador d root
      ∧ (SinEfecto E.manejador d root ↔ Quieto ⟨d, none, []⟩ c) := by
  have ended := ejecuta_detiene ordenes ⟨d, none, []⟩
  have last : (Curso.ejecuta ⟨d, none, []⟩ ordenes).1 = c := by rw [ran]
  rw [ran] at ended
  refine ⟨fun detiene => ?_, ?_, fun quieto => ⟨ordenes, asked, ?_⟩⟩
  · rw [detiene ordenes asked] at ended
    cases ended
  · intro holds
    rcases holds with ⟨otras, some', all⟩
    obtain rfl := Option.some.inj (asked.symm.trans some')
    exact last ▸ ejecuta_inocuas (c := ⟨d, none, []⟩) all
  · rw [← last] at quieto
    apply inocuas_of_quieto quieto ended.symm
    apply (pide_formas asked).2.resolve_left
    intro member
    exact ejecuta_enviar member ended.symm quieto.enviados

end Ejecuta

/-- The two ways in which the turn of a document can go: it stops the handler, or it leaves a
device that is the same exactly for a document without effect.
-/
theorem turno_cases (E : ConToken) (d : Device) (root : Json)
    : (Detiene E.manejador d root ∧ ¬SinEfecto E.manejador d root
        ∧ ∃ resultado, E.manejador.turno ⟨d, none, []⟩ root = .error resultado
          ∧ .documento (malJson E) ∉ resultado.enviados)
      ∨ (¬Detiene E.manejador d root
        ∧ ∃ c, E.manejador.turno ⟨d, none, []⟩ root = .ok c ∧ Limpio (malJson E) c
          ∧ (SinEfecto E.manejador d root ↔ Quieto ⟨d, none, []⟩ c)) := by
  cases asked : E.manejador.pide d root with
  | none =>
      left
      refine ⟨fun _ some' => (nomatch asked.symm.trans some'), ?_,
        (⟨d, none, []⟩ : Curso).termina .nullPointer, ?_, List.not_mem_nil⟩
      · intro holds
        rcases holds with ⟨ordenes, some', -⟩
        exact nomatch asked.symm.trans some'
      · simp only [Manejador.turno, asked]
  | some ordenes =>
      have start : Limpio (malJson E) ⟨d, none, []⟩ := ⟨nofun, List.not_mem_nil⟩
      have limpio := ejecuta_limpio start (pide_formas asked).1
      rcases ran : Curso.ejecuta ⟨d, none, []⟩ ordenes with ⟨c, _ | fin⟩
      · right
        obtain ⟨sigue, efecto⟩ := quieto_iff asked ran
        rw [ran] at limpio
        exact ⟨sigue, c, by simp only [Manejador.turno, asked, ran], limpio, efecto⟩
      · left
        obtain ⟨detiene, efecto⟩ := detiene_of_fin asked ran
        rw [ran] at limpio
        exact ⟨detiene, efecto, c.termina fin, by simp only [Manejador.turno, asked, ran],
          limpio.enviado⟩

/-- A piece that is no document: `SERVER` stops without an answer, the others send one. -/
theorem fallo_eq (E : ConToken) (c : Curso)
    : E.manejador.fallo c
      = if E = .server then ⟨c.dev, c.enviados, .nullPointer⟩
        else ⟨c.dev, c.enviados ++ [.documento (malJson E)], .ok⟩ := by
  cases E <;> rfl

/-- `SERVER` stops at a document before it stores anything. -/
theorem turno_server {d : Device} {root : Json} {resultado : Resultado}
    (h : serverHandler.turno ⟨d, none, []⟩ root = .error resultado)
    : resultado.dev = d ∧ resultado.enviados = [] := by
  have null (ended : Except.error ((⟨d, none, []⟩ : Curso).termina .nullPointer)
        = (.error resultado : Except Resultado Curso))
      : resultado.dev = d ∧ resultado.enviados = [] := by
    obtain rfl := Except.error.inj ended
    exact ⟨rfl, rfl⟩
  simp only [Manejador.turno, Manejador.pide] at h
  rcases read : leeMiembros root (["token"] :: serverHandler.miembros) with
    _ | ⟨_ | ⟨_ | token, valores⟩⟩ <;> rw [read] at h
  · exact null h
  · exact null h
  · exact null h
  · rcases login : loginCorrecto d token with _ | _ | _
    · simp only [login] at h
      exact null h
    · simp only [login] at h
      cases h
    · simp only [login, serverHandler, guarda, List.map_cons, List.map_nil,
        List.cons_append, List.nil_append] at h
      cases first : valores[0]?.join with
      | none =>
          rw [first] at h
          exact null h
      | some dato =>
          rw [first] at h
          cases h

end EspHttpControl.Http
