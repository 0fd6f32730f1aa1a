import EspHttpControl.Http.Device

/-! The shape that the nine token-checked handlers share: a receive loop that parses every
piece of the body on its own, reads the items it needs, compares the token and then acts.
`parse` stands for `cJSON_ParseWithOpts` and `cJSON_Parse`, which allow text behind the
document.
-/

namespace EspHttpControl.Http

open CText Nvs

/-- What tells one token-checked handler from another. -/
structure Manejador where
  /-- The name of the endpoint in the answers. -/
  endpoint : String
  /-- The size of `buf`. -/
  bufSize : Nat
  /-- Whether a piece that does not parse is answered; otherwise it is used as it is. -/
  compruebaJson : Bool
  /-- The items that are read behind the token, by their paths. -/
  miembros : List (List String)
  /-- What is sent for an empty body. -/
  vacio : Device → List Respuesta
  /-- The orders under the right token, from the strings of the items; `none` when a NULL
  string is used before any order. -/
  autenticado : Device → List (Option Str) → Option (List Orden)

/-- Read items in order; `none` when one of them is missing, so that NULL is used. -/
def leeMiembros (root : Json) (paths : List (List String)) : Option (List (Option Str)) :=
  paths.mapM fun path => (root.getPath path).map Json.valuestring

/-- `strcmp(token_httser, token) == 0`: the handlers treat the request as authenticated. `none`
when the static pointer is NULL.
-/
def loginCorrecto (d : Device) (token : Str) : Option Bool :=
  d.tokenHttser.map fun tokenHttser => tokenHttser = token

namespace Manejador

variable (parse : Str → Option Json) (h : Manejador)

/-- The branch of the right token: the handler carries out its orders. -/
def aceptada (c : Curso) (valores : List (Option Str)) : Except Resultado Curso :=
  match h.autenticado c.dev valores with
  | none => .error (c.termina .nullPointer)
  | some ordenes =>
    match c.ejecuta ordenes with
    | (c, none) => .ok c
    | (c, some fin) => .error (c.termina fin)

/-- The branch of any other token. -/
def rehusada (c : Curso) : Curso :=
  { c with responhttp := some (mensaje h.endpoint "Error token..") }

/-- One turn of the receive loop, on the text in the buffer: the handler goes on, or it ends. -/
def atiende (c : Curso) (texto : Str) : Except Resultado Curso :=
  match parse texto with
  | none =>
    if h.compruebaJson then
      .error { c with responhttp := some (mensaje h.endpoint "Error in JSON data") }.responde
    else .error (c.termina .nullPointer)
  | some root =>
    match leeMiembros root (["token"] :: h.miembros) with
    | some (some token :: valores) =>
      match loginCorrecto c.dev token with
      | none => .error (c.termina .nullPointer)
      | some true => h.aceptada c valores
      | some false => .ok (h.rehusada c)
    | _ => .error (c.termina .nullPointer)

/-- `while (remaining >= 1)`. -/
def recibe : Nat → List Recepcion → Curso → Resultado
  | 0, _, c => c.responde
  | _ + 1, [], c => c.termina .espera
  | remaining + 1, .timeout :: rest, c => recibe (remaining + 1) rest c
  | _ + 1, .error :: _, c => c.termina .fail
  | _ + 1, .pieza [] _ :: _, c => c.termina .fail
  | remaining + 1, .pieza (byte :: datos) resto :: rest, c =>
    match h.atiende parse c (cstr (byte :: datos ++ resto)) with
    | .error resultado => resultado
    | .ok c => recibe (remaining - datos.length) rest c

/-- The handler on a body of the announced length. -/
def handler (d : Device) (contentLen : Nat) (recepciones : List Recepcion) : Resultado :=
  if contentLen = 0 then ⟨d, h.vacio d, .ok⟩
  else h.recibe parse contentLen recepciones ⟨d, none, []⟩

end Manejador

/-- The text carries the token in force. -/
def Autentica (parse : Str → Option Json) (tokenHttser : Option Str) (texto : Str) : Prop :=
  ∃ root token, parse texto = some root ∧ root.stringAt ["token"] = some token
    ∧ tokenHttser = some token

/-- The texts that a handler parses when it takes in these pieces. -/
def textos (recepciones : List Recepcion) : List Str :=
  recepciones.filterMap fun recepcion =>
    match recepcion with
    | .pieza datos resto => some (cstr (datos ++ resto))
    | _ => none

/-- The items that are read are the strings at their paths, by induction on the paths. -/
theorem leeMiembros_eq {root : Json} {paths : List (List String)} {valores : List (Option Str)}
    (h : leeMiembros root paths = some valores)
    : valores = paths.map root.stringAt := by
  induction paths generalizing valores with
  | nil => exact (Option.some.inj h).symm
  | cons path rest ih =>
      simp only [leeMiembros, List.mapM_cons, Option.pure_def, Option.bind_eq_bind,
        Option.bind_eq_some_iff, Option.map_eq_some_iff, Option.some.injEq] at h
      obtain ⟨_, ⟨item, found, rfl⟩, later, read, rfl⟩ := h
      rw [List.map_cons, ← ih read, Json.stringAt, found, Option.bind_some]

theorem loginCorrecto_eq_true {d : Device} {token : Str}
    : loginCorrecto d token = some true ↔ d.tokenHttser = some token := by
  simp [loginCorrecto]

theorem loginCorrecto_eq_false {d : Device} {token : Str}
    : loginCorrecto d token = some false ↔ ∃ otro, d.tokenHttser = some otro ∧ otro ≠ token := by
  simp [loginCorrecto]

theorem leeMiembros_token {root : Json} {paths : List (List String)} {token : Str}
    {valores : List (Option Str)}
    (h : leeMiembros root (["token"] :: paths) = some (some token :: valores))
    : root.stringAt ["token"] = some token :=
  (List.cons.inj (leeMiembros_eq h)).1.symm

theorem leeMiembros_textos {root : Json} {paths : List (List String)}
    (all : ∀ path ∈ paths, ∃ texto, root.stringAt path = some texto)
    : leeMiembros root paths = some (paths.map root.stringAt) := by
  induction paths with
  | nil => rfl
  | cons path rest ih =>
      obtain ⟨texto, found⟩ := all path List.mem_cons_self
      obtain ⟨item, at_path, text⟩ := Option.bind_eq_some_iff.mp found
      have later := ih fun path member => all path (List.mem_cons_of_mem _ member)
      rw [leeMiembros] at later ⊢
      rw [List.mapM_cons, later, at_path, List.map_cons, found, ← text]
      rfl

/-- The members of an authenticated document in which all of them are strings. -/
theorem leeMiembros_autentica {root : Json} {token : Str} {paths : List (List String)}
    (autentica : root.stringAt ["token"] = some token)
    (all : ∀ path ∈ paths, ∃ texto, root.stringAt path = some texto)
    : leeMiembros root (["token"] :: paths) = some (some token :: paths.map root.stringAt) := by
  rw [← autentica, ← List.map_cons]
  exact leeMiembros_textos (List.forall_mem_cons.mpr ⟨⟨_, autentica⟩, all⟩)

namespace Manejador

variable {parse : Str → Option Json} {h : Manejador}

/-- A body that arrives in one piece takes one turn of the loop, whatever timeouts precede it.
-/
theorem handler_una_pieza {d : Device} {datos resto : List Char} (esperas : Nat)
    (despues : List Recepcion) (ne : datos ≠ [])
    : h.handler parse d datos.length
          (List.replicate esperas .timeout ++ .pieza datos resto :: despues)
      = match h.atiende parse ⟨d, none, []⟩ (cstr (datos ++ resto)) with
        | .error resultado => resultado
        | .ok c => c.responde := by
  obtain ⟨byte, datos, rfl⟩ := List.exists_cons_of_ne_nil ne
  rw [handler, if_neg (by simp)]
  induction esperas with
  | zero =>
      rw [List.replicate_zero, List.nil_append, List.length_cons, recibe]
      split
      · rfl
      · rw [Nat.sub_self, recibe]
  | succ esperas ih => exact ih

/-- What a turn leaves: the handler goes on in one way, or it ends in another. -/
def Deja (Inv : Curso → Prop) (Post : Resultado → Prop) : Except Resultado Curso → Prop
  | .ok siguiente => Inv siguiente
  | .error resultado => Post resultado

/-- The rule of the receive loop: what holds before every turn and at every end of the handler
holds of its result. By induction on the receptions.
-/
theorem recibe_regla {Inv : Curso → Prop} {Post : Resultado → Prop} {recepciones : List Recepcion}
    (turno : ∀ texto ∈ textos recepciones, ∀ c, Inv c → Deja Inv Post (h.atiende parse c texto))
    (responde : ∀ c, Inv c → Post c.responde)
    (termina : ∀ c fin, fin = .espera ∨ fin = .fail → Inv c → Post (c.termina fin))
    {remaining : Nat} {c : Curso} (start : Inv c)
    : Post (h.recibe parse remaining recepciones c) := by
  induction recepciones generalizing remaining c with
  | nil =>
      cases remaining with
      | zero => exact responde c start
      | succ remaining => exact termina c .espera (Or.inl rfl) start
  | cons recepcion rest ih =>
      cases remaining with
      | zero => exact responde c start
      | succ remaining =>
          cases recepcion with
          | timeout => exact ih turno start
          | error => exact termina c .fail (Or.inr rfl) start
          | pieza datos resto =>
              cases datos with
              | nil => exact termina c .fail (Or.inr rfl) start
              | cons byte datos =>
                  have here := turno _ (List.mem_cons_self ..) c start
                  rw [recibe]
                  cases went : h.atiende parse c (cstr (byte :: datos ++ resto)) with
                  | error resultado =>
                      rw [went] at here
                      exact here
                  | ok siguiente =>
                      rw [went] at here
                      have later := fun texto member =>
                        turno texto (List.mem_cons_of_mem _ member)
                      exact ih later here

/-- A turn that leaves the device as it was and does not restart it. -/
def Inerte (c : Curso) : Except Resultado Curso → Prop
  | .ok siguiente => siguiente.dev = c.dev
  | .error resultado => resultado.dev = c.dev ∧ resultado.fin ≠ .restart

/-- A turn on a text without the right token is inert, by the cases of the turn. -/
theorem atiende_inerte {c : Curso} {texto : Str}
    (sin : ¬Autentica parse c.dev.tokenHttser texto)
    : Inerte c (h.atiende parse c texto) := by
  simp only [atiende]
  split
  · split
    · exact ⟨rfl, by simp [Curso.responde]⟩
    · exact ⟨rfl, by simp [Curso.termina]⟩
  · next root parsed =>
    split
    · next token valores read =>
      split
      · exact ⟨rfl, by simp [Curso.termina]⟩
      · next accepted =>
        have same := loginCorrecto_eq_true.mp accepted
        exact absurd ⟨root, token, parsed, leeMiembros_token read, same⟩ sin
      · rfl
    · exact ⟨rfl, by simp [Curso.termina]⟩

/-- A body without the right token in any piece leaves the device as it was and does not
restart it. Witness: the rule of the receive loop, with the unchanged device as invariant.
-/
theorem recibe_inerte {recepciones : List Recepcion} {remaining : Nat} {c : Curso}
    (sin : ∀ texto ∈ textos recepciones, ¬Autentica parse c.dev.tokenHttser texto)
    : (h.recibe parse remaining recepciones c).dev = c.dev
      ∧ (h.recibe parse remaining recepciones c).fin ≠ .restart := by
  have turno (texto : Str) (member : texto ∈ textos recepciones) (visitado : Curso)
      (same : visitado.dev = c.dev)
      : Deja (fun s => s.dev = c.dev) (fun r => r.dev = c.dev ∧ r.fin ≠ .restart)
          (h.atiende parse visitado texto) := by
    have inerte := atiende_inerte (h := h) (same ▸ sin texto member)
    rw [← same]
    cases went : h.atiende parse visitado texto with
    | error resultado =>
        rw [went] at inerte
        exact inerte
    | ok siguiente =>
        rw [went] at inerte
        exact inerte
  refine recibe_regla turno (fun _ same => ⟨same, nofun⟩) ?_ rfl
  intro visitado fin ends same
  rcases ends with rfl | rfl
  · exact ⟨same, nofun⟩
  · exact ⟨same, nofun⟩

/-- A request without the right token in any piece leaves the device as it was. -/
theorem handler_inerte {d : Device} {contentLen : Nat} {recepciones : List Recepcion}
    (sin : ∀ texto ∈ textos recepciones, ¬Autentica parse d.tokenHttser texto)
    : (h.handler parse d contentLen recepciones).dev = d
      ∧ (h.handler parse d contentLen recepciones).fin ≠ .restart := by
  rw [handler]
  split
  · exact ⟨rfl, by simp⟩
  · exact recibe_inerte sin

end Manejador

end EspHttpControl.Http
