import EspHttpControl.Http.Ajustes
import EspHttpControl.Http.Setports

/-! What a factory reset leaves of the settings before it.
The handler of the reset, the handlers that report settings and the loader of the keys name the
entries by three separate tables.
-/

namespace EspHttpControl.Http

open CText Nvs

/-- What the reset writes: the settings, and the ports as not assigned. -/
def paresDefault : List (String × Str) :=
  valoresDefault.map fun (registro, dato) => (registro, dato.toList)

def paresPuertos : List (String × Str) := filas.map fun fila => (fila.registro, "255".toList)

def trasReset (nvs : Almacen) : Almacen := (nvs.writeAll paresDefault).writeAll paresPuertos

/-- An authenticated request for the reset, in one piece. -/
structure Restablece (parse : Str → Option Json) (d : Device) (p : Peticion) : Prop where
  peticion : ∃ root token datos resto esperas cola,
    p = .enUnaPieza .defaultesp esperas datos resto cola ∧ datos ≠ []
      ∧ parse (cstr (datos ++ resto)) = some root
      ∧ d.tokenHttser = some token ∧ root.stringAt ["token"] = some token
      ∧ root.stringAt ["RESET"] = some "true".toList

/-- The orders of a reset. -/
theorem defaultesp_ordenes (d : Device)
    : defaultespHandler.autenticado d [some "true".toList]
      = some (.preparar (mensaje "DEFAULTESP" "Default reset in progress..")
          :: (paresDefault.map (fun (registro, dato) => .grabar registro (some dato))
            ++ (paresPuertos.map (fun (registro, dato) => .grabar registro (some dato))
              ++ [.enviar]))) := by
  simp only [defaultespHandler, List.getElem?_cons_zero, Option.join_some, Option.map_some,
    if_true, paresDefault, paresPuertos, List.map_map, List.cons_append, List.append_assoc]
  rfl

/-- The reset changes nothing but the storage, and there it writes its two tables. -/
theorem Restablece.dev {parse : Str → Option Json} {d : Device} {p : Peticion}
    (reset : Restablece parse d p)
    : (servir parse d p).dev = { d with nvs := trasReset d.nvs } := by
  obtain ⟨root, token, datos, resto, esperas, cola, rfl, ne, documento, vigente, autentica,
    orden⟩ := reset.peticion
  have leidos : leeMiembros root (["token"] :: defaultespHandler.miembros)
      = some [some token, some "true".toList] := by
    rw [← orden]
    apply leeMiembros_autentica autentica
    intro path member
    obtain rfl := List.mem_singleton.mp member
    exact ⟨_, orden⟩
  rw [Peticion.enUnaPieza, servir, ConToken.manejador,
    Manejador.handler_una_pieza esperas cola ne, Manejador.atiende, documento]
  simp only [leidos, loginCorrecto_eq_true.mpr vigente, Manejador.aceptada, defaultesp_ordenes,
    Curso.ejecuta, ejecuta_grabar, Curso.responde, trasReset]

-----------------------------------------------------------------------------------------
-- What the next requests and the next boot read
-----------------------------------------------------------------------------------------

/-- The endpoints whose settings the reset does not write: it spells five of them in another way
and leaves two out.
-/
def noRestablecidos : List Ajuste := [.server, .wifiap, .wifist]

/-- The port that the loader finds for a key, unless it finds none. -/
def puertoCargado (nvs : Almacen) (key : KeyValue) : Option UInt8 :=
  if Registrada nvs key then some (preReadxNvs nvs key).toUInt8 else none

/-- The keys that the loader finds, each with its port. -/
def tablaCargada (nvs : Almacen) : List (KeyValue × UInt8) :=
  (loadKeysWithPortAssignedToRAM nvs).keysWithPorts.map fun key =>
    (key, (preReadxNvs nvs key).toUInt8)

theorem mem_tablaCargada {nvs : Almacen} {key : KeyValue} {puerto : UInt8}
    : (key, puerto) ∈ tablaCargada nvs ↔ puertoCargado nvs key = some puerto := by
  simp only [tablaCargada, List.mem_map, mem_loadKeys, Prod.mk.injEq, puertoCargado]
  constructor
  · intro holds
    obtain ⟨_, registrada, rfl, rfl⟩ := holds
    exact if_pos registrada
  · intro found
    split at found
    · next registrada => exact ⟨key, registrada, rfl, Option.some.inj found⟩
    · cases found

/-- The tables are the same exactly if they have the same port for each key. -/
theorem tablaCargada_eq_iff {nvs otro : Almacen}
    : tablaCargada nvs = tablaCargada otro
      ↔ ∀ key, puertoCargado nvs key = puertoCargado otro key := by
  constructor
  · intro same key
    apply Option.ext
    intro puerto
    rw [← mem_tablaCargada, ← mem_tablaCargada, same]
  · intro same
    have registradas (key : KeyValue) : Registrada nvs key ↔ Registrada otro key := by
      have here := congrArg Option.isSome (same key)
      simp only [puertoCargado, apply_ite Option.isSome, Option.isSome_some,
        Option.isSome_none] at here
      by_cases left : Registrada nvs key <;> by_cases right : Registrada otro key
        <;> simp_all
    rw [tablaCargada, tablaCargada, loadKeys_eq_filter, loadKeys_eq_filter]
    have keys : KeyValue.all.filter (Registrada nvs ·) = KeyValue.all.filter (Registrada otro ·) :=
      List.filter_congr fun key _ => decide_eq_decide.mpr (registradas key)
    rw [keys]
    refine List.map_congr_left fun key member => ?_
    have right : Registrada otro key := of_decide_eq_true (List.mem_filter.mp member).2
    have left : Registrada nvs key := (registradas key).mpr right
    have here := same key
    rw [puertoCargado, puertoCargado, if_pos left, if_pos right] at here
    rw [Option.some.inj here]

/-- The endpoint answers an empty body alike on both cards: they have the same settings, or a
setting is missing on each of them, so that both answers are empty.
-/
def InformaIgual (E : Ajuste) (d otro : Device) : Prop :=
  (∀ registro ∈ E.registros, d.nvs.get registro = otro.nvs.get registro)
  ∨ ((∃ registro ∈ E.registros, d.nvs.get registro = none)
    ∧ ∃ registro ∈ E.registros, otro.nvs.get registro = none)

/-- There is no report exactly if a setting is missing. -/
theorem informeDe_eq_none {E : Ajuste} {d : Device}
    : E.informeDe d = none ↔ ∃ registro ∈ E.registros, d.nvs.get registro = none := by
  constructor
  · intro missing
    by_contra stored
    push Not at stored
    have values : ∀ registro ∈ E.registros, d.leerNvs registro = some (d.valor registro) := by
      intro registro known
      obtain ⟨valor, held⟩ := Option.ne_none_iff_exists'.mp (stored registro known)
      rw [Device.valor, Device.leerNvs, held, Option.getD_some]
    rw [Ajuste.informeDe_eq_some.mpr ⟨values, rfl⟩] at missing
    cases missing
  · rintro ⟨registro, known, absent⟩
    cases reported : E.informeDe d with
    | none => rfl
    | some doc =>
        have held := (Ajuste.informeDe_eq_some.mp reported).1 registro known
        rw [Device.leerNvs, absent] at held
        cases held

/-- The reports are the same exactly if the settings are, or if there is none. -/
theorem informeDe_eq_iff (E : Ajuste) (d otro : Device)
    : E.informeDe d = E.informeDe otro ↔ InformaIgual E d otro := by
  cases left : E.informeDe d with
  | none =>
      have missing := informeDe_eq_none.mp left
      constructor
      · exact fun same => Or.inr ⟨missing, informeDe_eq_none.mp same.symm⟩
      · rintro (same | ⟨-, also⟩)
        · obtain ⟨registro, known, absent⟩ := missing
          exact (informeDe_eq_none.mpr ⟨registro, known, (same registro known) ▸ absent⟩).symm
        · exact (informeDe_eq_none.mpr also).symm
  | some doc =>
      obtain ⟨stored, shape⟩ := Ajuste.informeDe_eq_some.mp left
      have names : ((E.campos.map Prod.fst).zip E.registros).map Prod.snd = E.registros := by
        cases E <;> rfl
      constructor
      · intro same
        obtain ⟨storedOtro, shapeOtro⟩ := Ajuste.informeDe_eq_some.mp same.symm
        have values := List.map_inj_left.mp (List.cons.inj (shape.symm.trans shapeOtro)).2
        refine Or.inl fun registro known => ?_
        obtain ⟨campo, member, rfl⟩ := List.mem_map.mp (names ▸ known)
        have equal := (Prod.mk.inj (values campo member)).2
        exact (stored campo.2 known).trans ((congrArg some equal).trans (storedOtro campo.2 known).symm)
      · rintro (same | ⟨missing, -⟩)
        · have values : ∀ registro, d.nvs.get registro = otro.nvs.get registro
              → d.valor registro = otro.valor registro := by
            intro registro equal
            rw [Device.valor, Device.valor, Device.leerNvs, Device.leerNvs, equal]
          refine (Ajuste.informeDe_eq_some.mpr ⟨fun registro known => ?_, ?_⟩).symm
          · rw [← values registro (same registro known), ← stored registro known]
            exact (same registro known).symm
          · rw [shape]
            refine congrArg _ (List.map_congr_left fun campo member => ?_)
            rw [values campo.2 (same campo.2 (List.of_mem_zip member).2)]
        · rw [informeDe_eq_none.mpr missing] at left
          cases left

theorem vacio_eq_iff (E : Ajuste) (d otro : Device)
    : E.endpoint.manejador.vacio d = E.endpoint.manejador.vacio otro ↔ InformaIgual E d otro := by
  rw [← informeDe_eq_iff, Ajuste.vacio_eq, Ajuste.vacio_eq]
  constructor
  · exact fun same => Respuesta.sendstr_injective (List.cons.inj same).1
  · intro same
    rw [same]

/-- What an endpoint reports gets fixed values by the reset, or none of it is written. -/
theorem registros_reset (E : Ajuste)
    : ∀ registro ∈ E.registros, registro ∉ filas.map Fila.registro
        ∧ (E ∈ noRestablecidos → registro ∉ valoresDefault.map Prod.fst)
        ∧ (E ∉ noRestablecidos → registro ∈ valoresDefault.map Prod.fst) := by
  cases E <;> decide +kernel

theorem valoresDefault_wellFormed
    : (valoresDefault.map Prod.fst).Nodup
      ∧ (∀ registro ∈ valoresDefault.map Prod.fst, Admite registro)
      ∧ ∀ key ∈ desviadas, key.registro ∉ valoresDefault.map Prod.fst := by
  decide +kernel

theorem paresPuertos_registros : paresPuertos.map Prod.fst = filas.map Fila.registro := by
  rw [paresPuertos, List.map_map]
  rfl

theorem paresDefault_registros : paresDefault.map Prod.fst = valoresDefault.map Prod.fst := by
  rw [paresDefault, List.map_map]
  rfl

/-- A name that neither table has keeps its entry. -/
theorem trasReset_ajeno {nvs : Almacen} {registro : String}
    (ports : registro ∉ filas.map Fila.registro) (settings : registro ∉ valoresDefault.map Prod.fst)
    : (trasReset nvs).get registro = nvs.get registro := by
  rw [trasReset, Registers.Store.get_writeAll_of_not_mem (by rwa [paresPuertos_registros]),
    Registers.Store.get_writeAll_of_not_mem (by rwa [paresDefault_registros])]

/-- A setting of the reset holds its default, whatever it held before. -/
theorem trasReset_default {registro : String} (ports : registro ∉ filas.map Fila.registro)
    (setting : registro ∈ valoresDefault.map Prod.fst)
    : ∃ valor, ∀ nvs : Almacen, (trasReset nvs).get registro = some valor := by
  rw [← paresDefault_registros] at setting
  obtain ⟨⟨name, valor⟩, member, rfl⟩ := List.mem_map.mp setting
  refine ⟨valor, fun nvs => ?_⟩
  rw [trasReset, Registers.Store.get_writeAll_of_not_mem (by rwa [paresPuertos_registros])]
  refine Registers.Store.get_writeAll_of_mem ?_ member ?_ nvs
  · rw [paresDefault_registros]
    exact valoresDefault_wellFormed.1
  · rw [paresDefault_registros] at setting
    exact valoresDefault_wellFormed.2.1 name setting

/-- Behind a reset only a drifted key can have a port, and it is the one that it had. -/
theorem puertoCargado_trasReset (nvs : Almacen) (key : KeyValue)
    : puertoCargado (trasReset nvs) key
      = if key ∈ desviadas then puertoCargado nvs key else none := by
  by_cases desviada : key ∈ desviadas
  · have ports : key.registro ∉ filas.map Fila.registro :=
      fun member => registro_desviada key desviada (List.mem_append_left _ member)
    have kept : (trasReset nvs).get key.registro = nvs.get key.registro :=
      trasReset_ajeno ports (valoresDefault_wellFormed.2.2 key desviada)
    have registrada : Registrada (trasReset nvs) key ↔ Registrada nvs key := by
      rw [Registrada, Registrada, preReadxNvs_congr kept]
    rw [if_pos desviada]
    simp only [puertoCargado, registrada, preReadxNvs_congr kept]
  · rw [if_neg desviada]
    refine if_neg fun registrada => ?_
    by_cases largo : key = .toldoSuperior
    · subst largo
      exact registrada.1 (by rw [preReadxNvs_toldoSuperior]; rfl)
    · obtain ⟨fila, member, rfl⟩ := exists_fila key
      have admite := admite_registro fila.key (KeyValue.mem_all _) largo
      have held : (trasReset nvs).get fila.key.registro = some "255".toList := by
        refine Registers.Store.get_writeAll_of_mem ?_ ?_ admite _
        · rw [paresPuertos_registros]
          exact filas_wellFormed.2
        · rw [← registro_fila fila member desviada]
          exact List.mem_map_of_mem member
      have read : preReadxNvs (trasReset nvs) fila.key = UInt16.ofNat 255 :=
        preReadxNvs_puerto (by decide) held
      exact registrada.1 (by rw [read]; rfl)

-----------------------------------------------------------------------------------------
-- Main result
-----------------------------------------------------------------------------------------

/-- The five reports and the keys of the next boot are the same on both devices. -/
structure MismosAjustes (parse : Str → Option Json) (d otro : Device) : Prop where
  informes : ∀ (E : Ajuste) recepciones,
    (servir parse d (.conToken E.endpoint 0 recepciones)).enviados
      = (servir parse otro (.conToken E.endpoint 0 recepciones)).enviados
  tabla : tablaCargada d.nvs = tablaCargada otro.nvs

/-- Both devices agree on what the reset does not reach. -/
structure Coinciden (d otro : Device) : Prop where
  informes : ∀ E ∈ noRestablecidos, InformaIgual E d otro
  puertos : ∀ key ∈ desviadas, puertoCargado d.nvs key = puertoCargado otro.nvs key

/-- Behind a reset two devices have the same settings exactly if before it they agreed on what the
reset misses: the other settings hold their defaults and the other keys no port.
-/
theorem mismosAjustes_trasReset (parse : Str → Option Json) (d otro : Device)
    : MismosAjustes parse { d with nvs := trasReset d.nvs } { otro with nvs := trasReset otro.nvs }
      ↔ Coinciden d otro := by
  have kept {E : Ajuste} (missed : E ∈ noRestablecidos)
      : ∀ registro ∈ E.registros, ∀ nvs : Almacen,
          (trasReset nvs).get registro = nvs.get registro := by
    intro registro known nvs
    obtain ⟨ports, settings, -⟩ := registros_reset E registro known
    exact trasReset_ajeno ports (settings missed)
  have leidos {E : Ajuste} (missed : E ∈ noRestablecidos)
      : InformaIgual E { d with nvs := trasReset d.nvs } { otro with nvs := trasReset otro.nvs }
        ↔ InformaIgual E d otro := by
    have same := kept missed
    rw [InformaIgual, InformaIgual]
    refine or_congr (forall₂_congr fun registro known => ?_) (and_congr ?_ ?_)
    · rw [same registro known, same registro known]
    · exact exists_congr fun registro => and_congr_right fun known => by rw [same registro known]
    · exact exists_congr fun registro => and_congr_right fun known => by rw [same registro known]
  constructor
  · intro same
    refine ⟨fun E missed => ?_, fun key desviada => ?_⟩
    · exact (leidos missed).mp ((vacio_eq_iff E _ _).mp (same.informes E []))
    · have port := tablaCargada_eq_iff.mp same.tabla key
      simpa only [puertoCargado_trasReset, if_pos desviada] using port
  · intro coinciden
    refine ⟨fun E recepciones => (vacio_eq_iff E _ _).mpr ?_, ?_⟩
    · by_cases missed : E ∈ noRestablecidos
      · exact (leidos missed).mpr (coinciden.informes E missed)
      · refine Or.inl fun registro reported => ?_
        obtain ⟨ports, -, setting⟩ := registros_reset E registro reported
        obtain ⟨valor, held⟩ := trasReset_default ports (setting missed)
        simp only [held]
    · refine tablaCargada_eq_iff.mpr fun key => ?_
      rw [puertoCargado_trasReset, puertoCargado_trasReset]
      split
      · next desviada => exact coinciden.puertos key desviada
      · rfl

/-- Two devices that are reset have the same settings exactly if before it they agreed on the
settings and the ports that the reset misses. Witness: the reset writes its two tables.
-/
theorem reset_olvida_iff {parse : Str → Option Json} {d otro : Device} {p q : Peticion}
    (reset : Restablece parse d p) (resetOtro : Restablece parse otro q)
    : MismosAjustes parse (servir parse d p).dev (servir parse otro q).dev
      ↔ Coinciden d otro := by
  rw [reset.dev, resetOtro.dev]
  exact mismosAjustes_trasReset parse d otro

/-- The reset under a token, as its text and as its document. -/
def textoReset : Str := "\x7b\"token\":\"secreto\",\"RESET\":\"true\"\x7d".toList

def peticionReset : Json :=
  .object [("token".toList, .string secreto), ("RESET".toList, .string "true".toList)]

def reinicioDeFabrica : Peticion := .enUnaPieza .defaultesp 0 textoReset [nul] []

theorem restablece_enServicio {d : Device} (vigente : d.tokenHttser = some secreto)
    : Restablece (JsonText.parse atoi) d reinicioDeFabrica :=
  ⟨peticionReset, secreto, textoReset, [nul], 0, [], rfl, List.cons_ne_nil _ _, rfl, vigente, rfl,
    rfl⟩

/-- Two cards in service with different frame times. -/
theorem reset_olvida_trama
    : let dev := configurada.enServicio secreto
      let otro := (configurada.grabarNvs "1_TRAMA-TIME" ['9']).enServicio secreto
      MismosAjustes (JsonText.parse atoi)
        (servir (JsonText.parse atoi) dev reinicioDeFabrica).dev
        (servir (JsonText.parse atoi) otro reinicioDeFabrica).dev := by
  intro dev otro
  refine (reset_olvida_iff (restablece_enServicio rfl) (restablece_enServicio rfl)).mpr ⟨?_, ?_⟩
  · have iguales : ∀ E ∈ noRestablecidos, ∀ registro ∈ E.registros,
        dev.nvs.get registro = otro.nvs.get registro := by
      decide +kernel
    exact fun E missed => Or.inl (iguales E missed)
  · decide +kernel

/-- The identity of the card, which a reset is to leave. -/
def entradasIdentidad : List String :=
  ["7_USER_ID", "7_AHSN_BASE64", "7_SERIAL_ID", "8_MACADRRWIFI"]

/-- A stored password of the network survives the reset. -/
theorem reset_sin_olvidar
    : ∃ nvs otro : Almacen,
        (∀ registro ∈ entradasIdentidad, nvs.get registro = otro.get registro)
        ∧ ¬MismosAjustes (JsonText.parse atoi)
            (servir (JsonText.parse atoi)
              ({ Device.nueva with nvs := nvs }.enServicio secreto) reinicioDeFabrica).dev
            (servir (JsonText.parse atoi)
              ({ Device.nueva with nvs := otro }.enServicio secreto) reinicioDeFabrica).dev := by
  refine ⟨configurada.nvs, configurada.nvs.write "2_WIFI-ST-PASS" secreto, ?_, ?_⟩
  · decide +kernel
  · intro same
    rw [(restablece_enServicio rfl).dev, (restablece_enServicio rfl).dev] at same
    have coinciden := (mismosAjustes_trasReset _ _ _).mp same
    rcases coinciden.informes .wifist (by decide) with equal | ⟨missing, -⟩
    · exact absurd (equal "2_WIFI-ST-PASS" (by decide)) (by decide +kernel)
    · exact absurd missing (by decide +kernel)

end EspHttpControl.Http
