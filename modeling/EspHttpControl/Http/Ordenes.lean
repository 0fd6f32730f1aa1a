import EspHttpControl.Http.Registros

/-! Carrying out the orders of a handler.
Orders end the handler at a NULL value or a restart; the others leave the card as it was exactly
when each of them stores what is stored and clears what is clear.
-/

namespace EspHttpControl.Http

open CText Nvs

/-- The order ends the handler: a NULL value for the storage, or a restart. -/
def Orden.detiene : Orden → Bool
  | .grabar _ none => true
  | .restart => true
  | _ => false

/-- The order sends nothing and leaves storage and log as they are. -/
def Orden.Inocua (d : Device) : Orden → Prop
  | .grabar registro (some dato) => Admite registro → d.nvs.get registro = some dato
  | .grabar _ none => False
  | .preparar _ => True
  | .enviar => False
  | .clearlog => d.log = d.clearlog.log
  | .restart => False

theorem ejecuta_detiene (ordenes : List Orden) (c : Curso)
    : (c.ejecuta ordenes).2.isSome = ordenes.any Orden.detiene := by
  induction ordenes generalizing c with
  | nil => rfl
  | cons orden rest ih =>
      cases orden with
      | grabar registro dato =>
          cases dato with
          | none => rfl
          | some dato => exact ih _
      | preparar doc => exact ih _
      | enviar => exact ih _
      | clearlog => exact ih _
      | restart => rfl

/-- Storage, log and answers are the same at both points. -/
structure Quieto (antes despues : Curso) : Prop where
  nvs : despues.dev.nvs = antes.dev.nvs
  log : despues.dev.log = antes.dev.log
  enviados : despues.enviados = antes.enviados

/-- Storing what is stored, or under a name that is rejected, changes nothing. -/
theorem grabarNvs_eq_self {d : Device} {registro : String} {dato : Str}
    (held : Admite registro → d.nvs.get registro = some dato)
    : d.grabarNvs registro dato = d := by
  have written : Nvs.grabarNvs d.nvs registro dato = d.nvs := by
    by_cases admite : Admite registro
    · exact d.nvs.write_of_get (held admite)
    · exact d.nvs.write_rejected dato admite
  rw [Device.grabarNvs, written]

theorem clearlog_log (d : Device) : d.clearlog.log = some "LOG DE EVENTOS ESP32\n".toList := by
  simp [Device.log, Device.clearlog]

/-- Clearing a log that holds only its header changes nothing. -/
theorem clearlog_eq_self {d : Device} (header : d.log = d.clearlog.log) : d.clearlog = d := by
  have same : d.archivos logTxt = some "LOG DE EVENTOS ESP32\n".toList :=
    header.trans (clearlog_log d)
  rw [Device.clearlog, ← same, Function.update_eq_self]

/-- Orders without effect leave storage, log and answers, by induction on the orders. -/
theorem ejecuta_inocuas {ordenes : List Orden} {c : Curso}
    (all : ∀ orden ∈ ordenes, orden.Inocua c.dev)
    : Quieto c (c.ejecuta ordenes).1 := by
  induction ordenes generalizing c with
  | nil => exact ⟨rfl, rfl, rfl⟩
  | cons orden rest ih =>
      have here := all orden List.mem_cons_self
      have later : ∀ orden ∈ rest, orden.Inocua c.dev :=
        fun orden member => all orden (List.mem_cons_of_mem _ member)
      cases orden with
      | grabar registro dato =>
          cases dato with
          | none => exact here.elim
          | some dato =>
              simpa only [Curso.ejecuta, grabarNvs_eq_self here] using ih later
      | preparar doc =>
          have quieto := @ih { c with responhttp := some doc } later
          exact ⟨quieto.nvs, quieto.log, quieto.enviados⟩
      | enviar => exact here.elim
      | clearlog =>
          simpa only [Curso.ejecuta, clearlog_eq_self here] using ih later
      | restart => exact here.elim

/-- Answers are only added, and the log is only cleared. -/
theorem ejecuta_enviados (ordenes : List Orden) (c : Curso)
    : c.enviados <+: (c.ejecuta ordenes).1.enviados
      ∧ ((c.ejecuta ordenes).1.dev.log = c.dev.log
        ∨ (c.ejecuta ordenes).1.dev.log = c.dev.clearlog.log) := by
  refine @ejecuta_regla (fun c' => c.enviados <+: c'.enviados
    ∧ (c'.dev.log = c.dev.log ∨ c'.dev.log = c.dev.clearlog.log)) ordenes
    (fun _ _ _ _ kept => kept) (fun _ _ _ kept => kept) ?_ ?_ c ⟨List.prefix_rfl, Or.inl rfl⟩
  · intro c' kept
    exact ⟨kept.1.trans (List.prefix_append _ _), kept.2⟩
  · intro c' kept
    exact ⟨kept.1, Or.inr ((clearlog_log c'.dev).trans (clearlog_log c.dev).symm)⟩

theorem ejecuta_enviar_cons (rest : List Orden) (c : Curso)
    : (c.ejecuta (.enviar :: rest)).1.enviados ≠ c.enviados := by
  intro same
  have added := (ejecuta_enviados rest
    { c with enviados := c.enviados ++ [.sendstr c.responhttp] }).1.length_le
  rw [Curso.ejecuta] at same
  rw [same, List.length_append, List.length_singleton] at added
  omega

/-- Orders under different names that run to their end without any effect have none each, by
induction on the orders: a setting keeps what its one order gave it.
-/
theorem inocuas_of_quieto {ordenes : List Orden} {c : Curso}
    (quieto : Quieto c (c.ejecuta ordenes).1) (corre : ordenes.any Orden.detiene = false)
    (distinct : (ordenes.filterMap Orden.registro?).Nodup)
    : ∀ orden ∈ ordenes, orden.Inocua c.dev := by
  induction ordenes generalizing c with
  | nil => exact fun _ member => absurd member List.not_mem_nil
  | cons orden rest ih =>
      rw [List.any_cons, Bool.or_eq_false_iff] at corre
      refine List.forall_mem_cons.mpr ?_
      cases orden with
      | grabar registro dato =>
          cases dato with
          | none => cases corre.1
          | some dato =>
              obtain ⟨absent, distinct⟩ := List.nodup_cons.mp distinct
              have kept := (ejecuta_marco rest
                { c with dev := c.dev.grabarNvs registro dato }).2 registro absent
              have here : Orden.Inocua c.dev (.grabar registro (some dato)) := by
                intro admite
                rw [← quieto.nvs]
                exact kept.trans (c.dev.nvs.get_write_self dato admite)
              rw [Curso.ejecuta, grabarNvs_eq_self here] at quieto
              exact ⟨here, ih quieto corre.2 distinct⟩
      | preparar doc =>
          have later := @ih { c with responhttp := some doc }
            ⟨quieto.nvs, quieto.log, quieto.enviados⟩ corre.2 distinct
          exact ⟨trivial, later⟩
      | enviar => exact absurd quieto.enviados (ejecuta_enviar_cons rest c)
      | clearlog =>
          have here : Orden.Inocua c.dev .clearlog := by
            have log := (ejecuta_enviados rest { c with dev := c.dev.clearlog }).2
            rw [clearlog_log, clearlog_log] at log
            exact quieto.log.symm.trans ((log.elim id id).trans (clearlog_log c.dev).symm)
          rw [Curso.ejecuta, clearlog_eq_self here] at quieto
          exact ⟨here, ih quieto corre.2 distinct⟩
      | restart => cases corre.1

-----------------------------------------------------------------------------------------
-- The orders of the endpoints
-----------------------------------------------------------------------------------------

def malJson (E : ConToken) : Doc := mensaje E.manejador.endpoint "Error in JSON data"

def malToken (E : ConToken) : Doc := mensaje E.manejador.endpoint "Error token.."

@[simp]
theorem mensaje_inj {endpoint texto otro : String}
    : mensaje endpoint texto = mensaje endpoint otro ↔ texto = otro := by
  simp [mensaje, tramaEndp, String.toList_inj]

theorem preparar_guarda {endpoint : String} {registros : List (String × Nat)}
    {valores : List (Option Str)} {doc : Doc}
    (member : Orden.preparar doc ∈ guarda endpoint registros valores)
    : doc = mensaje endpoint "Data saved.." := by
  simp only [guarda, List.mem_append, List.mem_map, reduceCtorEq, and_false, exists_false,
    List.mem_singleton, Orden.preparar.injEq, false_or] at member
  exact member

/-- The names that an endpoint stores under differ, by the endpoint. -/
theorem escribe_nodup {E : ConToken} (reset : E ≠ .defaultesp) : E.escribe.Nodup := by
  cases E with
  | setports =>
      rw [ConToken.escribe, List.nodup_append]
      refine ⟨filas_wellFormed.2, List.nodup_singleton _, fun name known other same => ?_⟩
      rintro rfl
      obtain rfl := List.mem_singleton.mp same
      exact status_ajeno.1 known
  | defaultesp => exact absurd rfl reset
  | trama => decide +kernel
  | server => decide +kernel
  | log => exact List.nodup_nil
  | resetesp => exact List.nodup_nil
  | wifiap => decide +kernel
  | wifist => decide +kernel
  | sethttp => decide +kernel

/-- The answers that a handler prepares, and the settings that it names in order unless it
sends before it ends, by the endpoint.
-/
theorem autenticado_formas {E : ConToken} {d : Device} {valores : List (Option Str)}
    {ordenes : List Orden} (h : E.manejador.autenticado d valores = some ordenes)
    : (∀ doc, .preparar doc ∈ ordenes → doc ≠ malJson E ∧ doc ≠ malToken E)
      ∧ (.enviar ∈ ordenes ∨ (ordenes.filterMap Orden.registro?).Nodup) := by
  have saved {registros : List (String × Nat)} (names : registros.map Prod.fst = E.escribe)
      (reset : E ≠ .defaultesp)
      (same : some (guarda E.manejador.endpoint registros valores) = some ordenes)
      : (∀ doc, .preparar doc ∈ ordenes → doc ≠ malJson E ∧ doc ≠ malToken E)
        ∧ (.enviar ∈ ordenes ∨ (ordenes.filterMap Orden.registro?).Nodup) := by
    obtain rfl := Option.some.inj same
    refine ⟨fun doc member => ?_, Or.inr ?_⟩
    · rw [preparar_guarda member]
      simp [malJson, malToken]
    · simpa only [registro_guarda, names] using escribe_nodup reset
  cases E with
  | trama => exact saved rfl nofun h
  | server => exact saved rfl nofun h
  | log =>
      obtain ⟨message, -, rfl⟩ := Option.map_eq_some_iff.mp h
      split
      · exact ⟨by simp [malJson, malToken, ConToken.manejador, logHandler], Or.inr List.nodup_nil⟩
      · exact ⟨fun doc member => absurd member List.not_mem_nil, Or.inr List.nodup_nil⟩
  | resetesp =>
      obtain ⟨message, -, rfl⟩ := Option.map_eq_some_iff.mp h
      split
      · exact ⟨by simp [malJson, malToken, ConToken.manejador, resetespHandler], Or.inr List.nodup_nil⟩
      · exact ⟨by simp [malJson, malToken, ConToken.manejador, resetespHandler], Or.inr List.nodup_nil⟩
  | defaultesp =>
      obtain ⟨message, -, rfl⟩ := Option.map_eq_some_iff.mp h
      split
      · exact ⟨by simp [malJson, malToken, ConToken.manejador, defaultespHandler], Or.inl (by simp)⟩
      · exact ⟨by simp [malJson, malToken, ConToken.manejador, defaultespHandler], Or.inr List.nodup_nil⟩
  | wifiap =>
      obtain ⟨ssidap, -, h⟩ := Option.bind_eq_some_iff.mp h
      obtain ⟨mac, -, rfl⟩ := Option.map_eq_some_iff.mp h
      refine ⟨fun doc member => ?_, Or.inr ?_⟩
      · rcases List.mem_cons.mp member with same | member
        · cases same
        · rw [preparar_guarda member]
          simp [malJson, malToken, ConToken.manejador, wifiapHandler]
      · have names := registro_guarda "WIFIAP" [("2_WIFI-AP-PASS", 1), ("2_WIFI-AP-IP", 2)] valores
        change ("2_WIFI-AP-SSID" :: List.filterMap _ _).Nodup
        rw [names]
        exact escribe_nodup (E := .wifiap) nofun
  | wifist => exact saved rfl nofun h
  | sethttp => exact saved rfl nofun h
  | setports =>
      obtain rfl := Option.some.inj h
      refine ⟨by simp [malJson, malToken, ConToken.manejador, setportsHandler], Or.inr ?_⟩
      rw [registro_setports]
      exact escribe_nodup nofun

-----------------------------------------------------------------------------------------
-- Answers that a handler does not give
-----------------------------------------------------------------------------------------

/-- The document was neither prepared nor sent. -/
structure Limpio (doc : Doc) (c : Curso) : Prop where
  preparado : c.responhttp ≠ some doc
  enviado : .documento doc ∉ c.enviados

theorem sendstr_ne {responhttp : Option Doc} {doc : Doc} (ne : responhttp ≠ some doc)
    : Respuesta.sendstr responhttp ≠ .documento doc := by
  cases responhttp with
  | none => exact nofun
  | some otro => exact fun same => ne (congrArg some (Respuesta.documento.inj same))

theorem ejecuta_limpio {doc : Doc} {ordenes : List Orden} {c : Curso} (limpio : Limpio doc c)
    (formas : ∀ otro, .preparar otro ∈ ordenes → otro ≠ doc)
    : Limpio doc (c.ejecuta ordenes).1 := by
  refine ejecuta_regla (fun _ _ c' _ kept => ⟨kept.1, kept.2⟩) ?_ ?_
    (fun c' kept => ⟨kept.1, kept.2⟩) limpio
  · intro otro c' member kept
    exact ⟨fun same => formas otro member (Option.some.inj same), kept.2⟩
  · intro c' kept
    refine ⟨kept.1, fun member => ?_⟩
    rcases List.mem_append.mp member with old | new
    · exact kept.2 old
    · exact sendstr_ne kept.1 (List.mem_singleton.mp new).symm

/-- Sending among orders that run to their end leaves one answer more. -/
theorem ejecuta_enviar {ordenes : List Orden} {c : Curso} (member : .enviar ∈ ordenes)
    (corre : ordenes.any Orden.detiene = false)
    : (c.ejecuta ordenes).1.enviados ≠ c.enviados := by
  induction ordenes generalizing c with
  | nil => exact absurd member List.not_mem_nil
  | cons orden rest ih =>
      rw [List.any_cons, Bool.or_eq_false_iff] at corre
      have later (other : .enviar ≠ orden) : .enviar ∈ rest :=
        (List.mem_cons.mp member).resolve_left other
      cases orden with
      | grabar registro dato =>
          cases dato with
          | none => cases corre.1
          | some dato => exact ih (c := { c with dev := _ }) (later nofun) corre.2
      | preparar doc => exact ih (c := { c with responhttp := _ }) (later nofun) corre.2
      | enviar => exact ejecuta_enviar_cons rest c
      | clearlog => exact ih (c := { c with dev := _ }) (later nofun) corre.2
      | restart => cases corre.1

theorem detiene_of_inocua {d : Device} {orden : Orden} (inocua : orden.Inocua d)
    : orden.detiene = false := by
  cases orden with
  | grabar registro dato =>
      cases dato with
      | none => exact inocua.elim
      | some dato => rfl
  | preparar doc => rfl
  | enviar => rfl
  | clearlog => rfl
  | restart => exact inocua.elim

end EspHttpControl.Http
