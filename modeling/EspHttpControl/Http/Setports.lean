import Mathlib.Data.List.Dedup
import EspHttpControl.CText.JsonPrint
import EspHttpControl.Http.Turno

/-! The ports that `SETPORTS` stores and the keys that the next boot loads.
The handler and the loader name the entries by two separate tables; they agree on all keys but
six.
-/

namespace EspHttpControl.Http

open CText Nvs

/-- The keys that `app_main` loads at a boot; a card that is not registered is erased. -/
def alArrancar (nvs : Almacen) : Option KeysRam :=
  if readxNvs nvs "7_STATUS-MATR" = ['1'] then some (loadKeysWithPortAssignedToRAM nvs) else none

/-- A boot loads exactly the keys with a port, and each of them reads as its port. -/
def PuertosCargados (nvs : Almacen) (puerto : KeyValue → Nat) : Prop :=
  ∃ ram, alArrancar nvs = some ram
    ∧ ram.keysWithPorts = KeyValue.all.filter (puerto · ≠ 255)
    ∧ ∀ key, puerto key ≠ 255 → (preReadxNvs nvs key).toNat = puerto key

/-- The entry of the key reads as the port, or as none for the port 255. -/
def LeeComo (nvs : Almacen) (key : KeyValue) (puerto : Nat) : Prop :=
  (puerto = 255 → ¬Registrada nvs key) ∧ (puerto ≠ 255 → (preReadxNvs nvs key).toNat = puerto)

instance (nvs : Almacen) (key : KeyValue) (puerto : Nat) : Decidable (LeeComo nvs key puerto) :=
  inferInstanceAs (Decidable (_ ∧ _))

def trasSetports (nvs : Almacen) (puerto : KeyValue → Nat) : Almacen :=
  (nvs.writeAll (filas.map fun fila => (fila.registro, Nat.toDigits 10 (puerto fila.key)))).write
    "7_STATUS-MATR" ['1']

theorem map_zipIdx_getElem? {α β γ : Type} (xs : List α) (item : α → β) (f : α → Option β → γ)
    : (xs.zipIdx.map fun (x, i) => f x ((xs.map item)[i]?))
      = xs.map fun x => f x (some (item x)) := by
  apply List.ext_getElem?
  intro i
  rw [List.getElem?_map, List.getElem?_zipIdx, List.getElem?_map]
  cases at_i : xs[i]? with
  | none => rfl
  | some x => simp [at_i]

/-- The ports of a document in the order of the table, and the mark behind them. -/
def paresSetports (valor : Fila → Str) : List (String × Str) :=
  (filas.map fun fila => (fila.registro, valor fila)) ++ [("7_STATUS-MATR", ['1'])]

/-- The orders of an authenticated document with a string for every port. -/
theorem setports_pide {d : Device} {root : Json} {token : Str} {valor : Fila → Str}
    (vigente : d.tokenHttser = some token) (autentica : root.stringAt ["token"] = some token)
    (valores : ∀ fila ∈ filas, root.stringAt fila.path = some (valor fila))
    : setportsHandler.pide d root
      = some ((paresSetports valor).map (fun (registro, dato) => .grabar registro (some dato))
          ++ [.preparar (mensaje "SETPORTS" "Data saved..")]) := by
  have textos : (filas.map Fila.path).map root.stringAt = filas.map fun fila => some (valor fila) := by
    rw [List.map_map]
    exact List.map_congr_left valores
  have leidos : leeMiembros root (["token"] :: setportsHandler.miembros)
      = some (some token :: filas.map fun fila => some (valor fila)) := by
    rw [← textos]
    apply leeMiembros_autentica autentica
    intro path member
    obtain ⟨fila, known, rfl⟩ := List.mem_map.mp member
    exact ⟨_, valores fila known⟩
  have ordenes : setportsHandler.autenticado d (filas.map fun fila => some (valor fila))
      = some ((paresSetports valor).map (fun (registro, dato) => .grabar registro (some dato))
          ++ [.preparar (mensaje "SETPORTS" "Data saved..")]) := by
    have each := map_zipIdx_getElem? filas (fun fila => some (valor fila))
      fun fila dato => Orden.grabar fila.registro dato.join
    simp only [setportsHandler, each, Option.join_some, paresSetports, List.map_append,
      List.map_map, List.map_cons, List.map_nil, List.append_assoc, List.cons_append,
      List.nil_append, Function.comp_def]
    rfl
  simp only [Manejador.pide, leidos, loginCorrecto_eq_true.mpr vigente, ordenes]

/-- An accepted request in one piece stores all ports and marks the card as registered. -/
theorem setports_nvs {parse : Str → Option Json} {d : Device} {root : Json} {token : Str}
    {puerto : KeyValue → Nat} {datos resto : List Char} (esperas : Nat) (cola : List Recepcion)
    (ne : datos ≠ []) (documento : parse (cstr (datos ++ resto)) = some root)
    (vigente : d.tokenHttser = some token) (autentica : root.stringAt ["token"] = some token)
    (puertos : ∀ fila ∈ filas,
      root.stringAt fila.path = some (Nat.toDigits 10 (puerto fila.key)))
    : (servir parse d (.enUnaPieza .setports esperas datos resto cola)).dev.nvs
      = trasSetports d.nvs puerto := by
  rw [Peticion.enUnaPieza, servir, ConToken.manejador,
    Manejador.handler_una_pieza esperas cola ne, atiende_turno documento]
  simp only [Manejador.turno, setports_pide vigente autentica puertos, ejecuta_grabar, Curso.ejecuta,
    Curso.responde, paresSetports, trasSetports, Registers.Store.writeAll, List.foldl_append,
    List.foldl_cons, List.foldl_nil]

-----------------------------------------------------------------------------------------
-- What the next boot reads
-----------------------------------------------------------------------------------------

/-- The keys are loaded as posted exactly when each entry reads as its port. -/
theorem puertosCargados_iff {nvs : Almacen} {puerto : KeyValue → Nat}
    (rango : ∀ key, puerto key ≤ 253 ∨ puerto key = 255)
    (registrada : readxNvs nvs "7_STATUS-MATR" = ['1'])
    : PuertosCargados nvs puerto ↔ ∀ key, LeeComo nvs key (puerto key) := by
  constructor
  · intro holds key
    rcases holds with ⟨ram, loaded, keys, read⟩
    obtain rfl : loadKeysWithPortAssignedToRAM nvs = ram := by
      rw [alArrancar, if_pos registrada] at loaded
      exact Option.some.inj loaded
    refine ⟨fun none' present => ?_, read key⟩
    have member := mem_loadKeys.mpr present
    rw [keys, List.mem_filter] at member
    simp [none'] at member
  · intro all
    refine ⟨_, if_pos registrada, ?_, fun key => (all key).2⟩
    rw [loadKeys_eq_filter]
    refine List.filter_congr fun key _ => decide_eq_decide.mpr ⟨fun present none' => ?_, ?_⟩
    · exact (all key).1 none' present
    · intro some'
      exact registrada_of_puerto ((rango key).resolve_right some') ((all key).2 some')

theorem status_trasSetports (nvs : Almacen) (puerto : KeyValue → Nat)
    : readxNvs (trasSetports nvs puerto) "7_STATUS-MATR" = ['1'] := by
  exact readxNvs_of_get (Registers.Store.get_write_self _ _ (by decide))

/-- A key that both tables name alike, in a name that fits, reads as its port. -/
theorem leeComo_fila {nvs : Almacen} {puerto : KeyValue → Nat} {key : KeyValue}
    (rango : puerto key ≤ 253 ∨ puerto key = 255) (igual : key ∉ desviadas)
    (corto : key ≠ .toldoSuperior)
    : LeeComo (trasSetports nvs puerto) key (puerto key) := by
  obtain ⟨fila, member, rfl⟩ := exists_fila key
  have admite := admite_registro fila.key (KeyValue.mem_all _) corto
  have held : (trasSetports nvs puerto).get fila.key.registro
      = some (Nat.toDigits 10 (puerto fila.key)) := by
    have distinct : ((filas.map fun fila => (fila.registro,
        Nat.toDigits 10 (puerto fila.key))).map Prod.fst).Nodup := by
      rw [List.map_map]
      exact filas_wellFormed.2
    rw [trasSetports,
      Registers.Store.get_write_of_ne _ _ (status_ajeno.2 fila.key (KeyValue.mem_all _))]
    refine Registers.Store.get_writeAll_of_mem distinct ?_ admite nvs
    simpa only [← registro_fila fila member igual] using List.mem_map_of_mem member
  have read : preReadxNvs (trasSetports nvs puerto) fila.key = UInt16.ofNat (puerto fila.key) :=
    preReadxNvs_puerto (by omega) held
  refine ⟨fun none' present => ?_, fun _ => ?_⟩
  · rw [none'] at read
    exact present.1 (by rw [read]; rfl)
  · rw [read, UInt16.toNat_ofNat_of_lt']
    simp only [UInt16.size]
    omega

/-- The request leaves what a drifted key reads as. -/
theorem preReadxNvs_desviada {nvs : Almacen} {puerto : KeyValue → Nat} {key : KeyValue}
    (desviada : key ∈ desviadas)
    : preReadxNvs (trasSetports nvs puerto) key = preReadxNvs nvs key := by
  have absent := registro_desviada key desviada
  rw [List.mem_append, not_or, List.mem_singleton] at absent
  apply preReadxNvs_congr
  rw [trasSetports, Registers.Store.get_write_of_ne _ _ absent.2]
  refine Registers.Store.get_writeAll_of_not_mem ?_ nvs
  rw [List.map_map]
  exact absent.1

/-- After an accepted request the next boot loads exactly the keys with a port, and reads the
posted ports, if and only if the key with the long name was given none and the storage already
read the posted ports under the names of the drifted keys. Witness: the two tables key by key.
-/
theorem setports_cargados_iff {parse : Str → Option Json} {d : Device} {root : Json} {token : Str}
    {puerto : KeyValue → Nat} {datos resto : List Char} (esperas : Nat) (cola : List Recepcion)
    (ne : datos ≠ []) (documento : parse (cstr (datos ++ resto)) = some root)
    (vigente : d.tokenHttser = some token) (autentica : root.stringAt ["token"] = some token)
    (puertos : ∀ fila ∈ filas,
      root.stringAt fila.path = some (Nat.toDigits 10 (puerto fila.key)))
    (rango : ∀ key, puerto key ≤ 253 ∨ puerto key = 255)
    : PuertosCargados (servir parse d (.enUnaPieza .setports esperas datos resto cola)).dev.nvs
          puerto
      ↔ puerto .toldoSuperior = 255 ∧ ∀ key ∈ desviadas, LeeComo d.nvs key (puerto key) := by
  rw [setports_nvs esperas cola ne documento vigente autentica puertos,
    puertosCargados_iff rango (status_trasSetports d.nvs puerto)]
  constructor
  · intro all
    refine ⟨?_, fun key desviada => ?_⟩
    · by_contra some'
      have read := (all .toldoSuperior).2 some'
      rw [preReadxNvs_toldoSuperior] at read
      exact some' read.symm
    · have read := all key
      simp only [LeeComo, Registrada, preReadxNvs_desviada desviada] at read
      exact read
  · intro holds key
    rcases holds with ⟨toldo, previas⟩
    by_cases desviada : key ∈ desviadas
    · simp only [LeeComo, Registrada, preReadxNvs_desviada desviada]
      exact previas key desviada
    · by_cases largo : key = .toldoSuperior
      · subst largo
        refine ⟨fun _ present => ?_, fun some' => absurd toldo some'⟩
        exact present.1 (by rw [preReadxNvs_toldoSuperior]; rfl)
      · exact leeComo_fila (rango key) desviada largo

-----------------------------------------------------------------------------------------
-- The text of a request
-----------------------------------------------------------------------------------------

/-- The groups of the ports. -/
def grupos : List String := (filas.map Fila.grupo).dedup

/-- The ports of a group, as a request posts them. -/
def puertosDe (puerto : KeyValue → Nat) (grupo : String) : List (Str × Str) :=
  (filas.filter (·.grupo = grupo)).map fun fila =>
    (fila.miembro.toList, Nat.toDigits 10 (puerto fila.key))

/-- The members of a request under a token: each group with its ports, as texts and as values. -/
def miembrosSetports (token : Str) (puerto : KeyValue → Nat) : List (Str × Str × Json) :=
  ("token".toList, JsonText.quote token, .string token)
    :: grupos.map fun grupo =>
      (grupo.toList,
        JsonText.braces ((puertosDe puerto grupo).map fun p => (p.1, JsonText.quote p.2)),
        .object ((puertosDe puerto grupo).map fun p => (p.1, .string p.2)))

def textoSetports (token : Str) (puerto : KeyValue → Nat) : Str :=
  JsonText.braces ((miembrosSetports token puerto).map fun m => (m.1, m.2.1))

def peticionSetports (token : Str) (puerto : KeyValue → Nat) : Json :=
  .object ((miembrosSetports token puerto).map fun m => (m.1, m.2.2))

theorem filas_plain
    : ∀ fila ∈ filas, JsonText.Plain fila.grupo.toList ∧ JsonText.Plain fila.miembro.toList := by
  decide +kernel

theorem plain_toDigits (n : Nat) : JsonText.Plain (Nat.toDigits 10 n) := by
  intro c member
  have digit := toDigits_isDigit member
  simp only [Char.isDigit, Bool.and_eq_true, decide_eq_true_eq] at digit
  simp only [JsonText.plainChar, decide_eq_true_eq]
  refine ⟨?_, ?_, ?_⟩
  · have low : '0'.val.toNat ≤ c.val.toNat := digit.1
    exact Nat.le_trans (by decide) low
  · rintro rfl
    exact absurd digit.1 (by decide)
  · rintro rfl
    exact absurd digit.2 (by decide)

/-- The text is read as the request, group by group. -/
theorem readAs_textoSetports {numero : Str → Int32} {token : Str} (plain : JsonText.Plain token)
    (puerto : KeyValue → Nat)
    : JsonText.ReadAs numero (textoSetports token puerto) (peticionSetports token puerto) := by
  have named : JsonText.Plain "token".toList := by decide
  refine JsonText.readAs_braces (List.forall_mem_cons.mpr
    ⟨⟨named, JsonText.readAs_quote plain⟩, fun m member => ?_⟩)
  obtain ⟨grupo, known, rfl⟩ := List.mem_map.mp member
  obtain ⟨fila, row, rfl⟩ := List.mem_map.mp (List.mem_dedup.mp known)
  refine ⟨(filas_plain fila row).1, JsonText.readAs_strings fun p inside => ?_⟩
  obtain ⟨otra, among, rfl⟩ := List.mem_map.mp inside
  exact ⟨(filas_plain otra (List.mem_filter.mp among).1).2, plain_toDigits _⟩

/-- The names of the groups differ, and in each group those of the ports. -/
theorem nombres_distintos
    : Json.Distinct ("token".toList :: grupos.map String.toList)
      ∧ ∀ grupo ∈ grupos,
        Json.Distinct ((filas.filter (·.grupo = grupo)).map fun fila => fila.miembro.toList) := by
  decide +kernel

/-- Each row finds its port in the request. -/
theorem peticionSetports_puertos (token : Str) (puerto : KeyValue → Nat)
    : ∀ fila ∈ filas, (peticionSetports token puerto).stringAt fila.path
        = some (Nat.toDigits 10 (puerto fila.key)) := by
  intro fila member
  have known : fila.grupo ∈ grupos := List.mem_dedup.mpr (List.mem_map_of_mem member)
  have row : fila ∈ filas.filter (·.grupo = fila.grupo) :=
    List.mem_filter.mpr ⟨member, decide_eq_true rfl⟩
  have fuera := nombres_distintos.1
  have dentro := nombres_distintos.2 fila.grupo known
  refine @Json.stringAt_pair _ ((puertosDe puerto fila.grupo).map fun p => (p.1, .string p.2))
    _ _ _ ?_ ?_ ?_ ?_
  · simpa only [miembrosSetports, List.map_cons, List.map_map, Function.comp_def] using fuera
  · refine List.mem_map.mpr ⟨_, List.mem_cons_of_mem _ (List.mem_map_of_mem known), rfl⟩
  · simpa only [puertosDe, List.map_map, Function.comp_def] using dentro
  · exact List.mem_map.mpr ⟨_, List.mem_map_of_mem row, rfl⟩

/-- A port for one key and none for any other. -/
def soloPuerto (clave : KeyValue) (n : Nat) (key : KeyValue) : Nat := if key = clave then n else 255

theorem soloPuerto_rango (clave : KeyValue) {n : Nat} (small : n ≤ 253) (key : KeyValue)
    : soloPuerto clave n key ≤ 253 ∨ soloPuerto clave n key = 255 := by
  rw [soloPuerto]
  split
  · exact Or.inl small
  · exact Or.inr rfl

/-- A port for the climate control. -/
def puertoClima : KeyValue → Nat := soloPuerto .climatizacion 10

theorem puertoClima_rango (key : KeyValue) : puertoClima key ≤ 253 ∨ puertoClima key = 255 :=
  soloPuerto_rango _ (by decide) key

def secreto : Str := "secreto".toList

theorem parse_textoClima
    : JsonText.parse atoi (cstr (textoSetports secreto puertoClima ++ [nul]))
      = some (peticionSetports secreto puertoClima) :=
  (readAs_textoSetports (by decide) puertoClima).parse_cstr []

/-- A card in service that already has the entry which the loader reads. -/
def conClima : Device :=
  { Device.nueva with nvs := Device.nueva.nvs.write "1_CLIMATIZACIO" ['1', '0'] }.enServicio secreto

/-- With the entry there the port is loaded. -/
theorem setports_cargados_clima
    : PuertosCargados
        (servir (JsonText.parse atoi) conClima
          (.enUnaPieza .setports 0 (textoSetports secreto puertoClima) [nul] [])).dev.nvs
        puertoClima := by
  have previas : ∀ key ∈ desviadas, LeeComo conClima.nvs key (puertoClima key) := by
    decide +kernel
  have ne : textoSetports secreto puertoClima ≠ [] := List.cons_ne_nil _ _
  exact (setports_cargados_iff 0 [] ne parse_textoClima rfl rfl
    (peticionSetports_puertos secreto puertoClima) puertoClima_rango).mpr ⟨rfl, previas⟩

/-- On a new card the port is stored under a name that the loader does not read. -/
theorem setports_sin_cargar
    : ¬∀ (parse : Str → Option Json) (d : Device) (root : Json) (token : Str)
        (puerto : KeyValue → Nat) (datos resto : List Char),
        datos ≠ [] → parse (cstr (datos ++ resto)) = some root
        → d.tokenHttser = some token → root.stringAt ["token"] = some token
        → (∀ fila ∈ filas, root.stringAt fila.path = some (Nat.toDigits 10 (puerto fila.key)))
        → (∀ key, puerto key ≤ 253 ∨ puerto key = 255)
        → PuertosCargados (servir parse d (.enUnaPieza .setports 0 datos resto [])).dev.nvs
          puerto := by
  intro claim
  have ne : textoSetports secreto puertoClima ≠ [] := List.cons_ne_nil _ _
  obtain ⟨-, -, -, read⟩ := claim _ (Device.nueva.enServicio secreto) _ secreto puertoClima _ [nul]
    ne parse_textoClima rfl rfl (peticionSetports_puertos secreto puertoClima) puertoClima_rango
  have port := read .climatizacion (by decide)
  rw [setports_nvs 0 [] ne parse_textoClima rfl rfl
      (peticionSetports_puertos secreto puertoClima),
    preReadxNvs_desviada (by decide)] at port
  exact absurd port (by decide +kernel)

end EspHttpControl.Http
