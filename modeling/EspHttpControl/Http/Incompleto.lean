import EspHttpControl.CText.JsonText
import EspHttpControl.Http.Turno

/-! Requests whose document is incomplete.
Every handler uses the items that it reads before it has looked whether they are there, and only
behind the token whether they are strings; `SERVER` uses even a document that is none.
-/

namespace EspHttpControl.Http

open CText Nvs

/-- The text is no document, or one without a string at one of the paths that the handler reads. -/
def Incompleto (parse : Str → Option Json) (E : ConToken) (texto : Str) : Prop :=
  ∀ root, parse texto = some root →
    ∃ path ∈ ["token"] :: E.manejador.miembros, root.stringAt path = none

/-- What should hold of an incomplete request: no NULL item or string is used, the storage stays as
it was, and an error is answered.
-/
structure Rehusa (E : ConToken) (d : Device) (r : Resultado) : Prop where
  sinNulo : r.fin ≠ .nullPointer
  nvs : r.dev.nvs = d.nvs
  error :
    ∃ texto ∈ ["Error in JSON data", "Error token..", "Error command"],
      r.enviados = [.documento (mensaje E.manejador.endpoint texto)]

/-- The document has every item that the handler reads, and another token than the one in force. -/
structure Ajeno (E : ConToken) (d : Device) (root : Json) : Prop where
  miembros : ∀ path ∈ E.manejador.miembros, root.getPath path ≠ none
  token :
    ∃ token vigente, root.stringAt ["token"] = some token ∧ d.tokenHttser = some vigente
      ∧ token ≠ vigente

/-- The handler answers before it uses what is missing: it looks whether there is a document, or
finds all items but the right token.
-/
def Respondible (parse : Str → Option Json) (E : ConToken) (d : Device) (texto : Str) : Prop :=
  match parse texto with
  | none => E ≠ .server
  | some root => Ajeno E d root

-----------------------------------------------------------------------------------------
-- NULL strings
-----------------------------------------------------------------------------------------

/-- A NULL string among orders that restart nothing is used, by induction on the orders. -/
theorem ejecuta_nulo {ordenes : List Orden} (nulo : ∃ registro, .grabar registro none ∈ ordenes)
    (sin : .restart ∉ ordenes) (c : Curso)
    : (c.ejecuta ordenes).2 = some .nullPointer := by
  obtain ⟨registro, member⟩ := nulo
  induction ordenes generalizing c with
  | nil => exact absurd member List.not_mem_nil
  | cons orden rest ih =>
      obtain ⟨here, later⟩ := List.ne_and_not_mem_of_not_mem_cons sin
      cases orden with
      | grabar otro dato =>
          cases dato with
          | none => rfl
          | some dato => exact ih later _ ((List.mem_cons.mp member).resolve_left nofun)
      | preparar doc => exact ih later _ ((List.mem_cons.mp member).resolve_left nofun)
      | enviar => exact ih later _ ((List.mem_cons.mp member).resolve_left nofun)
      | clearlog => exact ih later _ ((List.mem_cons.mp member).resolve_left nofun)
      | restart => exact absurd rfl here

theorem restart_guarda (endpoint : String) (registros : List (String × Nat))
    (valores : List (Option Str))
    : .restart ∉ guarda endpoint registros valores := by
  simp [guarda]

theorem join_getElem?_of_nulo {valores : List (Option Str)} {i : Nat} (bound : i < valores.length)
    (found : valores[i] = none)
    : valores[i]?.join = none := by
  rw [List.getElem?_eq_getElem bound, found]
  rfl

/-- Where every item is stored a NULL string is. -/
theorem guarda_nulo {endpoint : String} {registros : List (String × Nat)}
    {valores : List (Option Str)} (todos : ∀ i < valores.length, i ∈ registros.map Prod.snd)
    (nulo : none ∈ valores)
    : ∃ registro, .grabar registro none ∈ guarda endpoint registros valores := by
  obtain ⟨i, bound, found⟩ := List.getElem_of_mem nulo
  have empty := join_getElem?_of_nulo bound found
  obtain ⟨⟨registro, j⟩, member, rfl⟩ := List.mem_map.mp (todos i bound)
  refine ⟨registro, List.mem_append_left _ (List.mem_map.mpr ⟨(registro, j), member, ?_⟩)⟩
  exact congrArg (Orden.grabar registro) empty

/-- The orders use a NULL string. -/
def UsaNulo (d : Device) (pedido : Option (List Orden)) : Prop :=
  ∀ ordenes, pedido = some ordenes → (Curso.ejecuta ⟨d, none, []⟩ ordenes).2 = some .nullPointer

theorem usaNulo_guarda {endpoint : String} {registros : List (String × Nat)}
    {valores : List (Option Str)} (d : Device)
    (todos : ∀ i < valores.length, i ∈ registros.map Prod.snd) (nulo : none ∈ valores)
    : UsaNulo d (some (guarda endpoint registros valores)) := by
  intro ordenes same
  obtain rfl := Option.some.inj same
  exact ejecuta_nulo (guarda_nulo todos nulo) (restart_guarda endpoint registros valores) _

/-- A handler with one member asks for nothing without its string. -/
theorem usaNulo_map {valores : List (Option Str)} (d : Device) (uno : valores.length = 1)
    (nulo : none ∈ valores) (ordenes : Str → List Orden)
    : UsaNulo d (valores[0]?.join.map ordenes) := by
  obtain ⟨valor, rfl⟩ := List.length_eq_one_iff.mp uno
  obtain rfl := List.mem_singleton.mp nulo
  exact nofun

/-- `wifiap_handler` completes the first of its strings and stores the others. -/
theorem usaNulo_wifiap {valores : List (Option Str)} (d : Device) (tres : valores.length = 3)
    (nulo : none ∈ valores)
    : UsaNulo d (wifiapHandler.autenticado d valores) := by
  obtain ⟨ssid, pass, ip, rfl⟩ := List.length_eq_three.mp tres
  intro ordenes asked
  obtain ⟨ssidap, first, asked⟩ := Option.bind_eq_some_iff.mp asked
  obtain ⟨mac, -, rfl⟩ := Option.map_eq_some_iff.mp asked
  have named : ssid = some ssidap := first
  have other : none ∈ [pass, ip] := by
    rw [named] at nulo
    exact (List.mem_cons.mp nulo).resolve_left nofun
  rcases List.mem_pair.mp other with rfl | rfl
  · exact ejecuta_nulo ⟨"2_WIFI-AP-PASS", by simp [guarda]⟩ (by simp [guarda]) _
  · exact ejecuta_nulo ⟨"2_WIFI-AP-IP", by simp [guarda]⟩ (by simp [guarda]) _

/-- `setports_handler` stores the string of each of its rows. -/
theorem usaNulo_setports {valores : List (Option Str)} (d : Device)
    (todos : valores.length = filas.length) (nulo : none ∈ valores)
    : UsaNulo d (setportsHandler.autenticado d valores) := by
  intro ordenes same
  obtain rfl := Option.some.inj same
  obtain ⟨i, bound, found⟩ := List.getElem_of_mem nulo
  have row : i < filas.length := todos ▸ bound
  refine ejecuta_nulo ⟨filas[i].registro, ?_⟩ (by simp) _
  refine List.mem_append_left _ (List.mem_map.mpr ⟨(filas[i], i), ?_, ?_⟩)
  · exact List.mk_mem_zipIdx_iff_getElem?.mpr (List.getElem?_eq_getElem row)
  · exact congrArg (Orden.grabar filas[i].registro) (join_getElem?_of_nulo bound found)

/-- Under the right token every handler uses every string that it has read, by the endpoint. -/
theorem autenticado_nulo {E : ConToken} {valores : List (Option Str)} (d : Device)
    (todos : valores.length = E.manejador.miembros.length) (nulo : none ∈ valores)
    : UsaNulo d (E.manejador.autenticado d valores) := by
  have saved {endpoint : String} {registros : List (String × Nat)}
      (stored : ∀ i < E.manejador.miembros.length, i ∈ registros.map Prod.snd)
      : UsaNulo d (some (guarda endpoint registros valores)) :=
    usaNulo_guarda d (todos ▸ stored) nulo
  cases E with
  | trama => exact saved (by decide)
  | server => exact saved (by decide)
  | wifist => exact saved (by decide)
  | sethttp => exact saved (by decide)
  | log => exact usaNulo_map d todos nulo _
  | resetesp => exact usaNulo_map d todos nulo _
  | defaultesp => exact usaNulo_map d todos nulo _
  | wifiap => exact usaNulo_wifiap d todos nulo
  | setports => exact usaNulo_setports d (todos.trans (List.length_map _)) nulo

-----------------------------------------------------------------------------------------
-- A turn
-----------------------------------------------------------------------------------------

/-- Items are read exactly if each of them is there, by induction on their paths. -/
theorem leeMiembros_isSome {root : Json} {paths : List (List String)}
    : (leeMiembros root paths).isSome ↔ ∀ path ∈ paths, root.getPath path ≠ none := by
  induction paths with
  | nil => simp [leeMiembros]
  | cons path rest ih =>
      rw [List.forall_mem_cons, ← ih, leeMiembros, leeMiembros, List.mapM_cons]
      cases root.getPath path with
      | none => simp
      | some item => cases rest.mapM fun path => (root.getPath path).map Json.valuestring <;> simp

section Turno

variable {E : ConToken} {d : Device} {root : Json}

/-- A document with another token is answered, whatever strings it lacks. -/
theorem turno_ajeno (ajeno : Ajeno E d root)
    : E.manejador.turno ⟨d, none, []⟩ root
      = .ok ⟨d, some (mensaje E.manejador.endpoint "Error token.."), []⟩ := by
  obtain ⟨miembros, token, vigente, named, fuerza, other⟩ := ajeno
  have present : root.getPath ["token"] ≠ none := by
    intro absent
    rw [Json.stringAt, absent] at named
    cases named
  have every := leeMiembros_isSome.mpr (List.forall_mem_cons.mpr ⟨present, miembros⟩)
  obtain ⟨valores, read⟩ := Option.isSome_iff_exists.mp every
  have strings := leeMiembros_eq read
  rw [List.map_cons, named] at strings
  rw [strings] at read
  have refused : loginCorrecto d token = some false :=
    loginCorrecto_eq_false.mpr ⟨vigente, fuerza, other.symm⟩
  have asked : E.manejador.pide d root
      = some [.preparar (mensaje E.manejador.endpoint "Error token..")] := by
    rw [Manejador.pide, read]
    dsimp only
    rw [refused]
  rw [Manejador.turno, asked]
  rfl

/-- An incomplete document under the right token, or without an item, ends at a NULL pointer. -/
theorem turno_nulo (falta : ∃ path ∈ ["token"] :: E.manejador.miembros, root.stringAt path = none)
    (propio : ¬Ajeno E d root)
    : ∃ c : Curso, E.manejador.turno ⟨d, none, []⟩ root = .error (c.termina .nullPointer) := by
  rw [Manejador.turno]
  cases asked : E.manejador.pide d root with
  | none => exact ⟨⟨d, none, []⟩, rfl⟩
  | some ordenes =>
      rw [Manejador.pide] at asked
      split at asked
      · next token valores read =>
        obtain ⟨named, strings⟩ := List.cons.inj (leeMiembros_eq read)
        have items := leeMiembros_isSome.mp (Option.isSome_of_eq_some read)
        have accepted : loginCorrecto d token = some true := by
          rcases login : loginCorrecto d token with _ | _ | _
          · rw [login] at asked
            cases asked
          · obtain ⟨vigente, fuerza, other⟩ := loginCorrecto_eq_false.mp login
            exact absurd ⟨(List.forall_mem_cons.mp items).2, token, vigente, named.symm, fuerza,
              other.symm⟩ propio
          · rfl
        rw [accepted] at asked
        -- the string that is missing is one of those behind the token
        have nulo : none ∈ valores := by
          obtain ⟨path, member, absent⟩ := falta
          rcases List.mem_cons.mp member with rfl | member
          · rw [← named] at absent
            cases absent
          · rw [strings, ← absent]
            exact List.mem_map_of_mem member
        have length : valores.length = E.manejador.miembros.length := by
          rw [strings, List.length_map]
        have ended := autenticado_nulo d length nulo ordenes asked
        rcases ran : Curso.ejecuta ⟨d, none, []⟩ ordenes with ⟨c, fin⟩
        rw [ran] at ended
        obtain rfl : fin = some .nullPointer := ended
        refine ⟨c, ?_⟩
        dsimp only
        rw [ran]
      · cases asked

end Turno

-----------------------------------------------------------------------------------------
-- Main result
-----------------------------------------------------------------------------------------

/-- An incomplete request that comes in one piece is refused exactly if the handler answers before
it uses what is missing. Witness: `turno_ajeno` and `turno_nulo`.
-/
theorem incompleto_rehusa_iff {parse : Str → Option Json} {E : ConToken} {d : Device}
    {datos resto : List Char} (esperas : Nat) (despues : List Recepcion) (ne : datos ≠ [])
    (incompleto : Incompleto parse E (cstr (datos ++ resto)))
    : Rehusa E d (servir parse d (.enUnaPieza E esperas datos resto despues))
      ↔ Respondible parse E d (cstr (datos ++ resto)) := by
  have answered : Fin.ok ≠ Fin.nullPointer := by
    decide
  rw [Peticion.enUnaPieza, servir, Manejador.handler_una_pieza esperas despues ne, Respondible]
  cases parsed : parse (cstr (datos ++ resto)) with
  | none =>
      rw [atiende_fallo parsed, fallo_eq]
      dsimp only
      split
      · next server => exact iff_of_false (fun rehusa => rehusa.sinNulo rfl) (not_not.mpr server)
      · next other =>
        refine iff_of_true ⟨answered, rfl, "Error in JSON data", by decide, rfl⟩ other
  | some root =>
      rw [atiende_turno parsed]
      dsimp only
      by_cases ajeno : Ajeno E d root
      · rw [turno_ajeno ajeno]
        exact iff_of_true ⟨answered, rfl, "Error token..", by decide, rfl⟩ ajeno
      · obtain ⟨c, ended⟩ := turno_nulo (incompleto root parsed) ajeno
        rw [ended]
        exact iff_of_false (fun rehusa => rehusa.sinNulo rfl) ajeno

/-- Text that is no document is answered by `TRAMA`. -/
theorem incompleto_rehusa_iff_sin_documento
    : let dev := Device.nueva.enServicio "secreto".toList
      Rehusa .trama dev
        (servir (JsonText.parse atoi) dev (.enUnaPieza .trama 1 "time".toList [nul] []))
      ↔ Respondible (JsonText.parse atoi) .trama dev (cstr ("time".toList ++ [nul])) := by
  intro dev
  have ninguno : JsonText.parse atoi (cstr ("time".toList ++ [nul])) = none := by
    decide +kernel
  exact incompleto_rehusa_iff 1 [] (by decide) fun _ parsed => nomatch ninguno.symm.trans parsed

/-- An object without members is the end of the handler. -/
theorem incompleto_no_rehusa
    : ¬∀ (parse : Str → Option Json) (E : ConToken) (d : Device) (esperas : Nat)
        (datos resto : List Char) (despues : List Recepcion),
        datos ≠ []
        → Incompleto parse E (cstr (datos ++ resto))
        → Rehusa E d (servir parse d (.enUnaPieza E esperas datos resto despues)) := by
  intro claim
  let dev := Device.nueva.enServicio "secreto".toList
  have falta : Incompleto (JsonText.parse atoi) .trama (cstr ("\x7b\x7d".toList ++ [nul])) := by
    intro root parsed
    obtain rfl : .object [] = root := Option.some.inj parsed
    exact ⟨["token"], List.mem_cons_self, rfl⟩
  exact (claim _ .trama dev 0 "\x7b\x7d".toList [nul] [] (by decide) falta).sinNulo rfl

end EspHttpControl.Http
