import EspHttpControl.Http.Turno

/-! The writes of a handler, one by one.
`grabar_nvs` commits each value on its own, so that a handler that is cut short leaves the
storage with the first of its writes.
-/

namespace EspHttpControl.Http

open CText Nvs

abbrev Escritura := String × Str

/-- The writes of some orders, up to the one that ends the handler. -/
def Orden.escrituras : List Orden → List Escritura
  | [] => []
  | .grabar registro (some dato) :: rest => (registro, dato) :: escrituras rest
  | .grabar _ none :: _ => []
  | .preparar _ :: rest => escrituras rest
  | .enviar :: rest => escrituras rest
  | .clearlog :: rest => escrituras rest
  | .restart :: _ => []

/-- The orders leave the storage with their writes, by induction on the orders. -/
theorem ejecuta_nvs (ordenes : List Orden) (c : Curso)
    : (c.ejecuta ordenes).1.dev.nvs = c.dev.nvs.writeAll (Orden.escrituras ordenes) := by
  induction ordenes generalizing c with
  | nil => rfl
  | cons orden rest ih =>
      cases orden with
      | grabar registro dato =>
          cases dato with
          | none => rfl
          | some dato => exact ih { c with dev := c.dev.grabarNvs registro dato }
      | preparar doc => exact ih { c with responhttp := some doc }
      | enviar => exact ih { c with enviados := c.enviados ++ [.sendstr c.responhttp] }
      | clearlog => exact ih { c with dev := c.dev.clearlog }
      | restart => rfl

namespace Manejador

variable (parse : Str → Option Json) (h : Manejador)

/-- The writes of one turn of the receive loop. -/
def escribeTurno (d : Device) (texto : Str) : List Escritura :=
  match (parse texto).bind (h.pide d) with
  | none => []
  | some ordenes => Orden.escrituras ordenes

/-- The writes of the receive loop, turn by turn. -/
def escribeRecibe : Nat → List Recepcion → Curso → List (List Escritura)
  | 0, _, _ => []
  | _ + 1, [], _ => []
  | remaining + 1, .timeout :: rest, c => escribeRecibe (remaining + 1) rest c
  | _ + 1, .error :: _, _ => []
  | _ + 1, .pieza [] _ :: _, _ => []
  | remaining + 1, .pieza (byte :: datos) resto :: rest, c =>
    let texto := cstr (byte :: datos ++ resto)
    h.escribeTurno parse c.dev texto ::
      match h.atiende parse c texto with
      | .error _ => []
      | .ok c => escribeRecibe (remaining - datos.length) rest c

/-- The turns of the receive loop: the card and the text that each of them finds. -/
def turnosRecibe : Nat → List Recepcion → Curso → List (Device × Str)
  | 0, _, _ => []
  | _ + 1, [], _ => []
  | remaining + 1, .timeout :: rest, c => turnosRecibe (remaining + 1) rest c
  | _ + 1, .error :: _, _ => []
  | _ + 1, .pieza [] _ :: _, _ => []
  | remaining + 1, .pieza (byte :: datos) resto :: rest, c =>
    let texto := cstr (byte :: datos ++ resto)
    (c.dev, texto) ::
      match h.atiende parse c texto with
      | .error _ => []
      | .ok c => turnosRecibe (remaining - datos.length) rest c

/-- The writes of the handler on a body of the announced length. -/
def escrituras (d : Device) (contentLen : Nat) (recepciones : List Recepcion)
    : List (List Escritura) :=
  if contentLen = 0 then [] else h.escribeRecibe parse contentLen recepciones ⟨d, none, []⟩

/-- The turns of the handler on a body of the announced length. -/
def turnos (d : Device) (contentLen : Nat) (recepciones : List Recepcion)
    : List (Device × Str) :=
  if contentLen = 0 then [] else h.turnosRecibe parse contentLen recepciones ⟨d, none, []⟩

variable {parse h}

theorem atiende_nvs (c : Curso) (texto : Str)
    : (deviceOf (h.atiende parse c texto)).nvs
      = c.dev.nvs.writeAll (h.escribeTurno parse c.dev texto) := by
  rw [escribeTurno]
  cases parsed : parse texto with
  | none =>
      rw [atiende_fallo parsed, fallo]
      split <;> rfl
  | some root =>
      rw [atiende_turno parsed, turno, Option.bind_some]
      cases asked : h.pide c.dev root with
      | none => rfl
      | some ordenes =>
          have stored := ejecuta_nvs ordenes c
          dsimp only
          rcases ran : c.ejecuta ordenes with ⟨next, _ | fin⟩
          · rw [ran] at stored
            exact stored
          · rw [ran] at stored
            exact stored

/-- A handler that is not cut short leaves the storage with all its writes, by induction over the
receive loop.
-/
theorem handler_nvs (d : Device) (contentLen : Nat) (recepciones : List Recepcion)
    : (h.handler parse d contentLen recepciones).dev.nvs
      = d.nvs.writeAll (h.escrituras parse d contentLen recepciones).flatten := by
  have loop (remaining : Nat) (c : Curso)
      : (h.recibe parse remaining recepciones c).dev.nvs
        = c.dev.nvs.writeAll (h.escribeRecibe parse remaining recepciones c).flatten := by
    induction recepciones generalizing remaining c with
    | nil => cases remaining <;> rfl
    | cons recepcion rest ih =>
        cases remaining with
        | zero => rfl
        | succ remaining =>
            cases recepcion with
            | timeout => exact ih _ _
            | error => rfl
            | pieza datos resto =>
                cases datos with
                | nil => rfl
                | cons byte datos =>
                    have turn := @atiende_nvs parse h c (cstr (byte :: datos ++ resto))
                    rw [recibe, escribeRecibe]
                    cases went : h.atiende parse c (cstr (byte :: datos ++ resto)) with
                    | error resultado =>
                        rw [went] at turn
                        have turn : resultado.dev.nvs = _ := turn
                        rw [List.flatten_cons, List.flatten_nil, List.append_nil]
                        exact turn
                    | ok next =>
                        rw [went] at turn
                        have turn : next.dev.nvs = _ := turn
                        dsimp only
                        rw [ih, turn, List.flatten_cons, Registers.Store.writeAll_append]
  rw [handler, escrituras]
  split
  · rfl
  · exact loop contentLen ⟨d, none, []⟩

/-- A body in one piece is one turn. -/
theorem escrituras_una_pieza {d : Device} {datos resto : List Char} (esperas : Nat)
    (cola : List Recepcion) (ne : datos ≠ [])
    : h.escrituras parse d datos.length
          (List.replicate esperas .timeout ++ .pieza datos resto :: cola)
      = [h.escribeTurno parse d (cstr (datos ++ resto))] := by
  obtain ⟨byte, datos, rfl⟩ := List.exists_cons_of_ne_nil ne
  rw [escrituras, if_neg (by simp)]
  induction esperas with
  | zero =>
      rw [List.replicate_zero, List.nil_append, List.length_cons, escribeRecibe, Nat.sub_self]
      dsimp only
      split
      · rfl
      · rw [escribeRecibe]
  | succ esperas ih => exact ih

/-- The writes of the handler are those of its turns, by induction over the receive loop. -/
theorem escrituras_turnos (d : Device) (contentLen : Nat) (recepciones : List Recepcion)
    : h.escrituras parse d contentLen recepciones
      = (h.turnos parse d contentLen recepciones).map fun turno =>
          h.escribeTurno parse turno.1 turno.2 := by
  have loop (remaining : Nat) (c : Curso)
      : h.escribeRecibe parse remaining recepciones c
        = (h.turnosRecibe parse remaining recepciones c).map fun turno =>
            h.escribeTurno parse turno.1 turno.2 := by
    induction recepciones generalizing remaining c with
    | nil => cases remaining <;> rfl
    | cons recepcion rest ih =>
        cases remaining with
        | zero => rfl
        | succ remaining =>
            cases recepcion with
            | timeout => exact ih _ _
            | error => rfl
            | pieza datos resto =>
                cases datos with
                | nil => rfl
                | cons byte datos =>
                    rw [escribeRecibe, turnosRecibe, List.map_cons]
                    cases went : h.atiende parse c (cstr (byte :: datos ++ resto)) with
                    | error resultado => simp only [List.map_nil]
                    | ok next => simp only [ih]
  rw [escrituras, turnos]
  split
  · rfl
  · exact loop contentLen ⟨d, none, []⟩

/-- A turn finds the text of a piece, by induction over the receive loop. -/
theorem turnosRecibe_textos {turno : Device × Str} {remaining : Nat} {recepciones : List Recepcion}
    {c : Curso} (taken : turno ∈ h.turnosRecibe parse remaining recepciones c)
    : turno.2 ∈ textos recepciones := by
  induction recepciones generalizing remaining c with
  | nil => cases remaining <;> exact absurd taken List.not_mem_nil
  | cons recepcion rest ih =>
      cases remaining with
      | zero => exact absurd taken List.not_mem_nil
      | succ remaining =>
          cases recepcion with
          | timeout => exact ih taken
          | error => exact absurd taken List.not_mem_nil
          | pieza datos resto =>
              cases datos with
              | nil => exact absurd taken List.not_mem_nil
              | cons byte datos =>
                  rw [turnosRecibe] at taken
                  rcases List.mem_cons.mp taken with rfl | later
                  · exact List.mem_cons_self
                  · cases went : h.atiende parse c (cstr (byte :: datos ++ resto)) with
                    | error resultado =>
                        rw [went] at later
                        exact absurd later List.not_mem_nil
                    | ok next =>
                        rw [went] at later
                        exact List.mem_cons_of_mem _ (ih later)

theorem turnos_textos {d : Device} {contentLen : Nat} {recepciones : List Recepcion}
    {turno : Device × Str} (taken : turno ∈ h.turnos parse d contentLen recepciones)
    : turno.2 ∈ textos recepciones := by
  rw [turnos] at taken
  split at taken
  · exact absurd taken List.not_mem_nil
  · exact turnosRecibe_textos taken

/-- What holds of the writes of every turn holds of every write of the handler. -/
theorem forall_turnos {P : Escritura → Prop} {d : Device} {contentLen : Nat}
    {recepciones : List Recepcion}
    (each : ∀ turno ∈ h.turnos parse d contentLen recepciones, ∀ root ordenes,
      parse turno.2 = some root → h.pide turno.1 root = some ordenes
      → ∀ escritura ∈ Orden.escrituras ordenes, P escritura)
    : ∀ escritura ∈ (h.escrituras parse d contentLen recepciones).flatten, P escritura := by
  intro escritura member
  rw [escrituras_turnos] at member
  obtain ⟨lote, among, inside⟩ := List.mem_flatten.mp member
  obtain ⟨turno, taken, rfl⟩ := List.mem_map.mp among
  rw [escribeTurno] at inside
  cases asked : (parse turno.2).bind (h.pide turno.1) with
  | none =>
      rw [asked] at inside
      exact absurd inside List.not_mem_nil
  | some ordenes =>
      rw [asked] at inside
      obtain ⟨root, parsed, asked⟩ := Option.bind_eq_some_iff.mp asked
      exact each turno taken root ordenes parsed asked escritura inside

/-- What holds of the writes of every document holds of every turn. -/
theorem forall_escrituras {P : List Escritura → Prop} (empty : P [])
    (each : ∀ d root ordenes, h.pide d root = some ordenes → P (Orden.escrituras ordenes))
    (d : Device) (contentLen : Nat) (recepciones : List Recepcion)
    : ∀ lote ∈ h.escrituras parse d contentLen recepciones, P lote := by
  intro lote member
  rw [escrituras_turnos] at member
  obtain ⟨turno, -, rfl⟩ := List.mem_map.mp member
  rw [escribeTurno]
  cases asked : (parse turno.2).bind (h.pide turno.1) with
  | none => exact empty
  | some ordenes =>
      obtain ⟨root, -, asked⟩ := Option.bind_eq_some_iff.mp asked
      exact each turno.1 root ordenes asked

end Manejador

/-- Orders write no other names than they have, by induction on the orders. -/
theorem escrituras_registros {ordenes : List Orden} {escritura : Escritura}
    (member : escritura ∈ Orden.escrituras ordenes)
    : escritura.1 ∈ ordenes.filterMap Orden.registro? := by
  induction ordenes with
  | nil => exact absurd member List.not_mem_nil
  | cons orden rest ih =>
      cases orden with
      | grabar registro dato =>
          cases dato with
          | none => exact absurd member List.not_mem_nil
          | some dato =>
              rcases List.mem_cons.mp member with rfl | later
              · exact List.mem_cons_self
              · exact List.mem_cons_of_mem _ (ih later)
      | preparar doc => exact ih member
      | enviar => exact ih member
      | clearlog => exact ih member
      | restart => exact absurd member List.not_mem_nil

/-- A document makes its handler write under the names of the endpoint. -/
theorem pide_escribe {E : ConToken} {d : Device} {root : Json} {ordenes : List Orden}
    (asked : E.manejador.pide d root = some ordenes)
    : ∀ escritura ∈ Orden.escrituras ordenes, escritura.1 ∈ E.escribe := by
  intro escritura member
  rw [Manejador.pide] at asked
  split at asked
  · split at asked
    · cases asked
    · exact autenticado_escribe asked _ (escrituras_registros member)
    · obtain rfl := Option.some.inj asked
      exact absurd member List.not_mem_nil
  · cases asked

/-- The writes of `version_handler`; it reads the address back. -/
def escriturasVersion (d : Device) : List Escritura :=
  [("8_MACADRRWIFI", textoMac d.mac),
    ("2_WiFi-AP-SSID", "ivAdventureM_".toList ++ textoMac d.mac)]

/-- The writes of a request, in order. -/
def Peticion.escrituras (parse : Str → Option Json) (d : Device) : Peticion → List Escritura
  | .conToken E contentLen recepciones =>
    (E.manejador.escrituras parse d contentLen recepciones).flatten
  | .version => escriturasVersion d
  | _ => []

/-- A request that is not cut short leaves the storage with all its writes, by the endpoint. -/
theorem servir_nvs (parse : Str → Option Json) (d : Device) (p : Peticion)
    : (servir parse d p).dev.nvs = d.nvs.writeAll (p.escrituras parse d) := by
  cases p with
  | conToken E contentLen recepciones => exact Manejador.handler_nvs d contentLen recepciones
  | version =>
      simp only [servir, (versionHandler_textoMac d).1, Peticion.escrituras, escriturasVersion,
        Registers.Store.writeAll_cons]
      rfl
  | webbuffer => rfl
  | ds18b20 => rfl
  | punto punto => rfl
  | echo contentLen recepciones =>
      simp only [servir]
      split
      · rw [(echoPostHandler_inerte d recepciones contentLen []).1]
        rfl
      · rfl
  | ctrl recepciones =>
      simp only [servir]
      fun_cases ctrlPutHandler
      all_goals rfl
  | download uri directorio =>
      simp only [servir]
      fun_cases downloadGetHandler
      all_goals rfl

end EspHttpControl.Http
