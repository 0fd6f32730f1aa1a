import EspHttpControl.Http.SinToken

/-! Which settings a request writes, and which ones an empty-body request reports.
Every handler writes only names of its own, so the settings behave as separate registers.
-/

namespace EspHttpControl.Http

open CText Nvs Machines

def Orden.registro? : Orden → Option String
  | .grabar registro _ => some registro
  | _ => none

/-- What each of the orders keeps is kept by carrying them out, by induction on the orders. -/
theorem ejecuta_regla {Inv : Curso → Prop} {ordenes : List Orden}
    (graba : ∀ registro dato c, .grabar registro (some dato) ∈ ordenes → Inv c
      → Inv { c with dev := c.dev.grabarNvs registro dato })
    (prepara : ∀ doc c, .preparar doc ∈ ordenes → Inv c → Inv { c with responhttp := some doc })
    (envia : ∀ c, Inv c → Inv { c with enviados := c.enviados ++ [.sendstr c.responhttp] })
    (limpia : ∀ c, Inv c → Inv { c with dev := c.dev.clearlog })
    {c : Curso} (start : Inv c)
    : Inv (c.ejecuta ordenes).1 := by
  induction ordenes generalizing c with
  | nil => exact start
  | cons orden rest ih =>
      have graba' := fun registro dato c member =>
        graba registro dato c (List.mem_cons_of_mem orden member)
      have prepara' := fun doc c member => prepara doc c (List.mem_cons_of_mem orden member)
      cases orden with
      | grabar registro dato =>
          cases dato with
          | none => exact start
          | some dato => exact ih graba' prepara' (graba registro dato c List.mem_cons_self start)
      | preparar doc => exact ih graba' prepara' (prepara doc c List.mem_cons_self start)
      | enviar => exact ih graba' prepara' (envia c start)
      | clearlog => exact ih graba' prepara' (limpia c start)
      | restart => exact start

/-- Orders leave the token in force and every setting that they do not name. -/
theorem ejecuta_marco (ordenes : List Orden) (c : Curso)
    : (c.ejecuta ordenes).1.dev.tokenHttser = c.dev.tokenHttser
      ∧ ∀ registro, registro ∉ ordenes.filterMap Orden.registro?
          → (c.ejecuta ordenes).1.dev.nvs.get registro = c.dev.nvs.get registro := by
  refine @ejecuta_regla (fun c' => c'.dev.tokenHttser = c.dev.tokenHttser
    ∧ ∀ registro, registro ∉ ordenes.filterMap Orden.registro?
      → c'.dev.nvs.get registro = c.dev.nvs.get registro) ordenes ?_ (fun _ _ _ kept => kept)
    (fun _ kept => kept) (fun _ kept => kept) c ⟨rfl, fun _ _ => rfl⟩
  intro escrito dato c' member kept
  obtain ⟨token, frame⟩ := kept
  refine ⟨token, fun registro absent => ?_⟩
  have other : registro ≠ escrito := by
    rintro rfl
    exact absent (List.mem_filterMap.mpr ⟨_, member, rfl⟩)
  exact (c'.dev.nvs.get_write_of_ne dato other).trans (frame registro absent)

/-- The names that each token-checked handler writes. -/
def ConToken.escribe : ConToken → List String
  | .trama => ["1_TRAMA-TIME"]
  | .server => ["4_SERVERTIME"]
  | .log => []
  | .resetesp => []
  | .defaultesp => valoresDefault.map Prod.fst ++ filas.map Fila.registro
  | .wifiap => ["2_WIFI-AP-SSID", "2_WIFI-AP-PASS", "2_WIFI-AP-IP"]
  | .wifist => ["2_WIFI-ST-SSID", "2_WIFI-ST-PASS", "2_WIFI-ST-INTE"]
  | .sethttp =>
    ["4_URL-TRAMA", "4_URL-LOGIN", "4_TIMEOUT-HTTP", "4_TOKEN-TIME", "5_TOK-HTTPSER",
      "4_SERVER-TIME"]
  | .setports => filas.map Fila.registro ++ ["7_STATUS-MATR"]

theorem registro_guarda (endpoint : String) (registros : List (String × Nat))
    (valores : List (Option Str))
    : (guarda endpoint registros valores).filterMap Orden.registro? = registros.map Prod.fst := by
  simp [guarda, List.filterMap_map, Function.comp_def, Orden.registro?]

theorem registro_setports (valores : List (Option Str))
    : List.filterMap Orden.registro?
        ((filas.zipIdx.map fun (fila, i) => .grabar fila.registro valores[i]?.join)
          ++ [.grabar "7_STATUS-MATR" (some "1".toList),
            .preparar (mensaje "SETPORTS" "Data saved..")])
      = ConToken.setports.escribe := by
  have names : (filas.zipIdx.map fun x => x.1.registro) = filas.map Fila.registro := by
    change filas.zipIdx.map (Fila.registro ∘ Prod.fst) = _
    rw [← List.map_map, List.zipIdx_map_fst]
  rw [List.filterMap_append, List.filterMap_map]
  change (filas.zipIdx.filterMap (some ∘ fun x => x.1.registro)) ++ _ = _
  rw [List.filterMap_eq_map, names]
  rfl

/-- The branch of the right token writes no other names, by the endpoint. -/
theorem autenticado_escribe {E : ConToken} {d : Device} {valores : List (Option Str)}
    {ordenes : List Orden} (h : E.manejador.autenticado d valores = some ordenes)
    : ∀ registro ∈ ordenes.filterMap Orden.registro?, registro ∈ E.escribe := by
  intro registro member
  have saved {registros : List (String × Nat)} (names : registros.map Prod.fst = E.escribe)
      (same : some (guarda E.manejador.endpoint registros valores) = some ordenes)
      : registro ∈ E.escribe := by
    rwa [← Option.some.inj same, registro_guarda, names] at member
  cases E with
  | trama => exact saved rfl h
  | server => exact saved rfl h
  | log =>
      obtain ⟨message, -, rfl⟩ := Option.map_eq_some_iff.mp h
      split at member <;> simp [Orden.registro?] at member
  | resetesp =>
      obtain ⟨message, -, rfl⟩ := Option.map_eq_some_iff.mp h
      split at member <;> simp [Orden.registro?] at member
  | defaultesp =>
      obtain ⟨message, -, rfl⟩ := Option.map_eq_some_iff.mp h
      split at member
      · simp only [List.cons_append, List.filterMap_cons, List.filterMap_append,
          List.filterMap_map, Function.comp_def, Orden.registro?, List.filterMap_nil,
          List.append_nil, List.filterMap_eq_map'] at member
        exact member
      · simp [Orden.registro?] at member
  | wifiap =>
      obtain ⟨ssidap, -, h⟩ := Option.bind_eq_some_iff.mp h
      obtain ⟨mac, -, rfl⟩ := Option.map_eq_some_iff.mp h
      rcases List.mem_cons.mp member with rfl | later
      · exact List.mem_cons_self
      · rw [registro_guarda] at later
        exact List.mem_cons_of_mem _ later
  | wifist => exact saved rfl h
  | sethttp => exact saved rfl h
  | setports =>
      obtain rfl := Option.some.inj h
      simpa only [registro_setports] using member

/-- The token in force and the settings outside `nombres` are the same on both devices. -/
structure Marco (nombres : List String) (antes despues : Device) : Prop where
  token : despues.tokenHttser = antes.tokenHttser
  nvs : ∀ registro, registro ∉ nombres → despues.nvs.get registro = antes.nvs.get registro

theorem Marco.refl (nombres : List String) (d : Device) : Marco nombres d d :=
  ⟨rfl, fun _ _ => rfl⟩

theorem Marco.trans {nombres : List String} {first second third : Device}
    (left : Marco nombres first second) (right : Marco nombres second third)
    : Marco nombres first third :=
  ⟨right.token.trans left.token,
    fun registro absent => (right.nvs registro absent).trans (left.nvs registro absent)⟩

def deviceOf : Except Resultado Curso → Device
  | .ok c => c.dev
  | .error resultado => resultado.dev

/-- A turn of the loop leaves the device, or carries out orders of the right token, by the cases of
the turn.
-/
theorem deviceOf_atiende (parse : Str → Option Json) (h : Manejador) (c : Curso) (texto : Str)
    : deviceOf (h.atiende parse c texto) = c.dev
      ∨ ∃ valores ordenes, h.autenticado c.dev valores = some ordenes
          ∧ deviceOf (h.atiende parse c texto) = (c.ejecuta ordenes).1.dev := by
  simp only [Manejador.atiende]
  split
  · split
    · exact Or.inl rfl
    · exact Or.inl rfl
  · split
    · next token valores _ =>
      split
      · exact Or.inl rfl
      · rw [Manejador.aceptada]
        cases chosen : h.autenticado c.dev valores with
        | none => exact Or.inl rfl
        | some ordenes =>
            refine Or.inr ⟨valores, ordenes, chosen, ?_⟩
            rcases ran : c.ejecuta ordenes with ⟨next, _ | fin⟩ <;> simp only [ran] <;> rfl
      · exact Or.inl rfl
    · exact Or.inl rfl

/-- A turn of the loop writes the names of its endpoint only. -/
theorem atiende_marco (parse : Str → Option Json) (E : ConToken) (c : Curso) (texto : Str)
    : Marco E.escribe c.dev (deviceOf (E.manejador.atiende parse c texto)) := by
  rcases deviceOf_atiende parse E.manejador c texto with same | ⟨valores, ordenes, chosen, same⟩
  · rw [same]
    exact .refl _ _
  · have marco := ejecuta_marco ordenes c
    rw [same]
    exact ⟨marco.1, fun registro absent =>
      marco.2 registro fun member => absent (autenticado_escribe chosen registro member)⟩

/-- A handler writes the names of its endpoint only, by the rule of the receive loop. -/
theorem handler_marco {parse : Str → Option Json} (E : ConToken) (d : Device) (contentLen : Nat)
    (recepciones : List Recepcion)
    : Marco E.escribe d (E.manejador.handler parse d contentLen recepciones).dev := by
  have turno (texto : Str) (_ : texto ∈ textos recepciones) (c : Curso)
      (marco : Marco E.escribe d c.dev)
      : Manejador.Deja (fun s => Marco E.escribe d s.dev) (fun r => Marco E.escribe d r.dev)
          (E.manejador.atiende parse c texto) := by
    have turn := marco.trans (atiende_marco parse E c texto)
    cases went : E.manejador.atiende parse c texto with
    | error resultado =>
        rw [went] at turn
        exact turn
    | ok next =>
        rw [went] at turn
        exact turn
  rw [Manejador.handler]
  split
  · exact .refl _ _
  · exact Manejador.recibe_regla turno (fun _ marco => marco) (fun _ _ _ marco => marco)
      (Marco.refl _ _)

/-- The names that a request can write. -/
def Peticion.escribe : Peticion → List String
  | .conToken E _ _ => E.escribe
  | .version => registrosVersion
  | _ => []

/-- A request leaves the token in force and every setting that it does not name, by the
endpoint.
-/
theorem servir_marco (parse : Str → Option Json) (d : Device) (p : Peticion)
    : Marco p.escribe d (servir parse d p).dev := by
  cases p with
  | conToken E contentLen recepciones => exact handler_marco E d contentLen recepciones
  | version =>
      have sin : SinToken parse d.tokenHttser .version := by simp [SinToken, Peticion.textos]
      have conserva := (servir_sin_token sin).1
      exact ⟨conserva.token, conserva.nvs⟩
  | webbuffer => exact .refl _ _
  | ds18b20 => exact .refl _ _
  | punto punto => exact .refl _ _
  | echo contentLen recepciones =>
      simp only [servir]
      split
      · rw [(echoPostHandler_inerte d recepciones contentLen []).1]
        exact .refl _ _
      · exact .refl _ _
  | ctrl recepciones =>
      simp only [servir]
      fun_cases ctrlPutHandler
      all_goals exact ⟨rfl, fun _ _ => rfl⟩
  | download uri directorio =>
      simp only [servir]
      fun_cases downloadGetHandler
      all_goals exact .refl _ _

/-- Orders that store values are a list of writes, in order. -/
theorem ejecuta_grabar (pares : List (String × Str)) (rest : List Orden) (c : Curso)
    : c.ejecuta ((pares.map fun (registro, dato) => .grabar registro (some dato)) ++ rest)
      = Curso.ejecuta { c with dev := { c.dev with nvs := c.dev.nvs.writeAll pares } } rest := by
  induction pares generalizing c with
  | nil => rfl
  | cons par rest ih => exact ih { c with dev := c.dev.grabarNvs par.1 par.2 }

section Regla

variable {Inv : Device → Prop} (graba : ∀ d registro dato, Inv d → Inv (d.grabarNvs registro dato))
    (limpia : ∀ d, Inv d → Inv d.clearlog)
include graba limpia

/-- A turn of the loop keeps what storing a value and clearing the log keep. -/
theorem atiende_regla (parse : Str → Option Json) (h : Manejador) {c : Curso} (start : Inv c.dev)
    (texto : Str)
    : Inv (deviceOf (h.atiende parse c texto)) := by
  rcases deviceOf_atiende parse h c texto with same | ⟨_, ordenes, -, same⟩
  · rw [same]
    exact start
  · rw [same]
    exact @ejecuta_regla (fun c => Inv c.dev) ordenes
      (fun registro dato c _ kept => graba c.dev registro dato kept)
      (fun _ _ _ kept => kept) (fun _ kept => kept) (fun c kept => limpia c.dev kept) c start

/-- A request keeps what storing a value, clearing the log and registering `/echo` keep, by the
endpoint.
-/
theorem servir_regla (registra : ∀ d echoRegistrado, Inv d → Inv { d with echoRegistrado })
    (parse : Str → Option Json) {d : Device} (start : Inv d) (p : Peticion)
    : Inv (servir parse d p).dev := by
  cases p with
  | conToken E contentLen recepciones =>
      have turno (texto : Str) (_ : texto ∈ textos recepciones) (c : Curso) (kept : Inv c.dev)
          : Manejador.Deja (fun s => Inv s.dev) (fun r => Inv r.dev)
              (E.manejador.atiende parse c texto) := by
        have turn := atiende_regla graba limpia parse E.manejador kept texto
        cases went : E.manejador.atiende parse c texto with
        | error resultado =>
            rw [went] at turn
            exact turn
        | ok next =>
            rw [went] at turn
            exact turn
      simp only [servir, Manejador.handler]
      split
      · exact start
      · exact Manejador.recibe_regla turno (fun _ kept => kept) (fun _ _ _ kept => kept) start
  | version =>
      rw [servir, (versionHandler_textoMac d).1]
      exact graba _ _ _ (graba _ _ _ start)
  | webbuffer => exact start
  | ds18b20 => exact start
  | punto punto => exact start
  | echo contentLen recepciones =>
      simp only [servir]
      split
      · rw [(echoPostHandler_inerte d recepciones contentLen []).1]
        exact start
      · exact start
  | ctrl recepciones =>
      simp only [servir]
      fun_cases ctrlPutHandler
      case case5 => exact registra d _ start
      all_goals exact start
  | download uri directorio =>
      simp only [servir]
      fun_cases downloadGetHandler
      all_goals exact start

end Regla

end EspHttpControl.Http
