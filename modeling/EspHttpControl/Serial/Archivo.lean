import EspHttpControl.Serial.Decodificacion
import EspHttpControl.Serial.Vueltas

/-! Where an accepted frame leaves its readings.
`allocate_data` counts the cells from zero whatever the first port is, and a cell is looked up by
its port in `vector_positions`. The two agree on a range that starts at the module's first port.
-/

namespace EspHttpControl.Serial

open CText

/-- The integers of a field, one for each part between colons. -/
def enteros (campo : Str) : List Int32 := (campo.splitOn ':').map atoi

/-- Every port of the range of a frame is one of the module's, with a cell that holds the integers
of the field of that port.
-/
def EnSuPuerto (trama : Trama) (modulo : ModulosApp) (valores : List (List Int32)) : Prop :=
  ∀ p : UInt8,
    trama.portMin ≤ p
    → p ≤ trama.portMax
    → ramaDe p = some modulo
      ∧ (vectorPositions p).toNat < modulo.celdas
      ∧ ∃ campo,
          trama.campos[p.toNat - trama.portMin.toNat]? = some campo
          ∧ valores[(vectorPositions p).toNat]? = some (enteros campo)

/-- What should hold of an accepted frame of a module with integers: storing it ends well, with
its integers at its ports.
-/
def Archiva (atof : Str → UInt32) (data : List Char) (trama : Trama) (modulo : ModulosApp)
    (ram : SerialRam)
    : Prop :=
  ∃ ram',
    parseData atof data ram = .ok (.espOk, ram')
    ∧ EnSuPuerto trama modulo (ram'.valores modulo)

/-- The range starts at the first port of the module and does not leave it, and every field has
as many parts as the module has integers for a port, none of them empty.
-/
def Archivable (trama : Trama) (modulo : ModulosApp) : Prop :=
  ∃ M : Publicado,
    M.modulo = modulo
    ∧ trama.portMin = M.puerto 0
    ∧ trama.portMax.toNat < M.primero + M.puertos
    ∧ ∀ campo ∈ trama.campos,
        (campo.splitOn ':').length = M.anchura ∧ ∀ parte ∈ campo.splitOn ':', parte ≠ []

-----------------------------------------------------------------------------------------
-- Accepted frames
-----------------------------------------------------------------------------------------

/-- The memory at the return of `parse_data`, when the loop has left it as `s`. -/
def SerialRam.cerrada (s : SerialRam) : SerialRam :=
  { s with sensorGPS := Vector.replicate 1 gpsFijo, notParsingData := true }

@[simp]
theorem valores_cerrada (s : SerialRam) (modulo : ModulosApp)
    : s.cerrada.valores modulo = s.valores modulo := by
  cases modulo <;> rfl

/-- An accepted frame ends well exactly if its loop does. -/
theorem parseData_ok_iff {data : List Char} {trama : Trama}
    (leida : separar data = .ok (some trama)) {atof : Str → UInt32}
    {turno : SerialRam → UInt8 → Str → Except Fault SerialRam}
    (chosen : turnoDe atof trama.module = some turno) {ram ram' : SerialRam}
    : parseData atof data ram = .ok (.espOk, ram')
      ↔ ∃ last,
          asignar turno trama.portMax trama.portMin 0 trama.llamada.sensorData ram = .ok last
          ∧ ram' = last.cerrada := by
  have called : llamada data = .ok (some trama.llamada) := by
    rw [llamada, leida]
    rfl
  have selected : asignarModulo atof trama.llamada.portMin trama.llamada.portMax
      trama.llamada.module trama.llamada.sensorData ram
      = asignar turno trama.portMax trama.portMin 0 trama.llamada.sensorData ram := by
    change turnoDe atof trama.llamada.module = some turno at chosen
    rw [asignarModulo, chosen]
    rfl
  rw [parseData_llama called, allocateData, selected]
  constructor
  · intro ended
    obtain ⟨after, stored, closed⟩ := ok_of_bind ended
    obtain ⟨last, loop, fixed⟩ := ok_of_bind stored
    obtain rfl := Except.ok.inj fixed
    exact ⟨last, loop, (Prod.mk.inj (Except.ok.inj closed)).2.symm⟩
  · rintro ⟨last, loop, rfl⟩
    rw [loop]
    rfl

/-- The fields of a loop that comes to its end can all be read, and are no more than the cells. -/
theorem legibles_of_asignar {data : List Char} {trama : Trama}
    (leida : separar data = .ok (some trama)) {α : Type} {n : Nat} {p : Place SerialRam α n}
    {lee : Str → Except Fault α} {s last : SerialRam}
    (ended : asignar (guardar p lee) trama.portMax trama.portMin 0 trama.llamada.sensorData s
      = .ok last)
    : trama.portMax ≠ 255 ∧ trama.llamada.sensorData = trama.campos ∧ trama.campos.length ≤ n
      ∧ ∀ campo ∈ trama.campos, campo ≠ [] ∧ ∃ x, lee campo = .ok x := by
  obtain ⟨leidos, vueltas⟩ := asignar_iff_vueltas.mp ended
  obtain ⟨rfl, tokens, nonempty⟩ := leidos_campos leida vueltas
  have bound := trama.portMax.toNat_lt
  have zero : (0 : UInt8).toNat = 0 := rfl
  obtain ⟨-, ports⟩ := separar_acepta leida
  obtain ⟨legibles, cells⟩ := vueltas.alcanzan (alcanza_guardar p lee) (by omega)
  have some' := trama.campos_pos
  have fits := cells (trama.campos.length - 1) (by omega)
  exact ⟨vueltas.portMax_ne, tokens, by omega,
    fun campo member => ⟨nonempty campo member, legibles campo member⟩⟩

theorem exists_forall₂ {α β : Type} {R : α → β → Prop} {tokens : List α}
    (each : ∀ token ∈ tokens, ∃ x, R token x)
    : ∃ valores, List.Forall₂ R tokens valores := by
  induction tokens with
  | nil => exact ⟨[], .nil⟩
  | cons token rest ih =>
      obtain ⟨⟨x, here⟩, later⟩ := List.forall_mem_cons.mp each
      obtain ⟨valores, pairs⟩ := ih later
      exact ⟨x :: valores, .cons here pairs⟩

-----------------------------------------------------------------------------------------
-- The arrays of integers
-----------------------------------------------------------------------------------------

/-- The array of a module and how a field becomes one of its records. -/
structure Archivo (M : Publicado) where
  Registro : Type
  sitio : Place SerialRam Registro M.puertos
  lee : Str → Except Fault Registro
  valoresDe : Registro → List Int32
  turno : ∀ atof, turnoDe atof M.modulo.num = some (guardar sitio lee)
  alojado : ∀ ram : SerialRam, ram.valores M.modulo = (sitio.cells ram).toList.map valoresDe
  fiel : ∀ campo : Str,
    campo ≠ []
    → ((∃ x, lee campo = .ok x ∧ valoresDe x = enteros campo)
      ↔ (campo.splitOn ':').length = M.anchura ∧ ∀ parte ∈ campo.splitOn ':', parte ≠ [])

theorem fiel_lectura {campo : Str} (nonempty : campo ≠ [])
    : (∃ x, leeLectura campo = .ok x ∧ x.valores = enteros campo)
      ↔ (campo.splitOn ':').length = 1 ∧ ∀ parte ∈ campo.splitOn ':', parte ≠ [] := by
  constructor
  · rintro ⟨x, leido, same⟩
    have one := (congrArg List.length same).symm
    rw [enteros, List.length_map] at one
    rw [splitOn_eq_self one]
    exact ⟨rfl, List.forall_mem_singleton.mpr nonempty⟩
  · rintro ⟨one, -⟩
    refine ⟨_, rfl, ?_⟩
    rw [enteros, splitOn_eq_self one]
    rfl

/-- A record of several parts holds the integers of a field exactly if they are its parts. -/
theorem fiel_partes {α : Type} {w : Nat} {lee : Str → Except Fault α} {valoresDe : α → List Int32}
    (leido : ∀ campo x, lee campo = .ok x ↔ valoresDe x = ((fields [':'] campo).take w).map atoi)
    (ancho : ∀ valores, valores.length = w ↔ ∃ x, valoresDe x = valores) (campo : Str)
    : (∃ x, lee campo = .ok x ∧ valoresDe x = enteros campo)
      ↔ (campo.splitOn ':').length = w ∧ ∀ parte ∈ campo.splitOn ':', parte ≠ [] := by
  rw [← fields_eq_splitOn_iff]
  constructor
  · rintro ⟨x, read, same⟩
    have width : (enteros campo).length = w := (ancho _).mpr ⟨x, same⟩
    rw [enteros, List.length_map] at width
    have many : ((fields [':'] campo).take w).length = w := by
      rw [← List.length_map (f := atoi), ← (leido campo x).mp read]
      exact (ancho _).mpr ⟨x, rfl⟩
    refine ⟨width, fields_eq_splitOn ?_⟩
    rw [List.length_take] at many
    omega
  · rintro ⟨width, whole⟩
    obtain ⟨x, same⟩ := (ancho (enteros campo)).mp (by rw [enteros, List.length_map, width])
    refine ⟨x, (leido campo x).mpr ?_, same⟩
    rw [same, whole, enteros, List.take_of_length_le (Nat.le_of_eq width)]

theorem leeAnalogico_leido (campo : Str) (x : Analogicos)
    : leeAnalogico campo = .ok x ↔ x.valores = ((fields [':'] campo).take 2).map atoi := by
  rw [leeAnalogico, splitSensors_fst]
  generalize fields [':'] campo = partes
  obtain ⟨valor1, valor2⟩ := x
  rcases partes with _ | ⟨a, _ | ⟨b, rest⟩⟩
  · simp [Serial.campo, bind, Except.bind, Analogicos.valores]
  · simp [Serial.campo, bind, Except.bind, Analogicos.valores]
  · constructor
    · intro read
      cases Except.ok.inj read
      rfl
    · intro same
      simp only [Analogicos.valores, List.take_succ_cons, List.take_zero, List.map_cons,
        List.map_nil, List.cons.injEq, and_true] at same
      obtain ⟨rfl, rfl⟩ := same
      rfl

theorem leeTanque_leido (campo : Str) (x : Tanques)
    : leeTanque campo = .ok x ↔ x.valores = ((fields [':'] campo).take 5).map atoi := by
  rw [leeTanque, splitSensors_fst]
  generalize fields [':'] campo = partes
  obtain ⟨valor1, valor2, valor3, valor4, valor5⟩ := x
  rcases partes with _ | ⟨a, _ | ⟨b, _ | ⟨c, _ | ⟨d, _ | ⟨e, rest⟩⟩⟩⟩⟩
  · simp [Serial.campo, bind, Except.bind, Tanques.valores]
  · simp [Serial.campo, bind, Except.bind, Tanques.valores]
  · simp [Serial.campo, bind, Except.bind, Tanques.valores]
  · simp [Serial.campo, bind, Except.bind, Tanques.valores]
  · simp [Serial.campo, bind, Except.bind, Tanques.valores]
  · constructor
    · intro read
      cases Except.ok.inj read
      rfl
    · intro same
      simp only [Tanques.valores, List.take_succ_cons, List.take_zero, List.map_cons,
        List.map_nil, List.cons.injEq, and_true] at same
      obtain ⟨rfl, rfl, rfl, rfl, rfl⟩ := same
      rfl

theorem ancho_analogico (valores : List Int32)
    : valores.length = 2 ↔ ∃ x : Analogicos, x.valores = valores := by
  rw [List.length_eq_two]
  constructor
  · rintro ⟨a, b, rfl⟩
    exact ⟨⟨a, b⟩, rfl⟩
  · rintro ⟨x, rfl⟩
    exact ⟨x.valor1, x.valor2, rfl⟩

theorem ancho_tanque (valores : List Int32)
    : valores.length = 5 ↔ ∃ x : Tanques, x.valores = valores := by
  constructor
  · intro five
    rcases valores with _ | ⟨a, _ | ⟨b, _ | ⟨c, _ | ⟨d, _ | ⟨e, _ | ⟨f, rest⟩⟩⟩⟩⟩⟩ <;>
      simp at five
    exact ⟨⟨a, b, c, d, e⟩, rfl⟩
  · rintro ⟨x, rfl⟩
    rfl

/-- The five modules whose frames are stored, each with its array. -/
def archivo : (M : Publicado) → Archivo M
  | .temperature =>
    ⟨Temperaturas, enTemperatura, leeLectura, Lectura.valores, fun _ => rfl, fun _ => rfl,
      fun _ => fiel_lectura⟩
  | .liquido =>
    ⟨Tanques, enTanque, leeTanque, Tanques.valores, fun _ => rfl, fun _ => rfl,
      fun campo _ => fiel_partes leeTanque_leido ancho_tanque campo⟩
  | .analogico =>
    ⟨Analogicos, enAnalogico, leeAnalogico, Analogicos.valores, fun _ => rfl, fun _ => rfl,
      fun campo _ => fiel_partes leeAnalogico_leido ancho_analogico campo⟩
  | .ventilador =>
    ⟨Ventiladores, enVentilador, leeLectura, Lectura.valores, fun _ => rfl, fun _ => rfl,
      fun _ => fiel_lectura⟩
  | .digitalOutput =>
    ⟨Interruptores, enInterruptor, leeLectura, Lectura.valores, fun _ => rfl, fun _ => rfl,
      fun _ => fiel_lectura⟩

-----------------------------------------------------------------------------------------
-- Ports and cells
-----------------------------------------------------------------------------------------

/-- The ports of a module are a range, and their cells are counted from its first port. -/
theorem ramaDe_publicado (M : Publicado)
    : ∀ n < 256,
        (ramaDe (UInt8.ofNat n) = some M.modulo ↔ M.primero ≤ n ∧ n < M.primero + M.puertos)
        ∧ (M.primero ≤ n
          → n < M.primero + M.puertos
          → (vectorPositions (UInt8.ofNat n)).toNat = n - M.primero) := by
  cases M <;> decide +kernel

theorem ramaDe_iff (M : Publicado) (p : UInt8)
    : ramaDe p = some M.modulo ↔ M.primero ≤ p.toNat ∧ p.toNat < M.primero + M.puertos := by
  have range := (ramaDe_publicado M p.toNat p.toNat_lt).1
  rwa [UInt8.ofNat_toNat] at range

theorem vectorPositions_publicado {M : Publicado} {p : UInt8} (low : M.primero ≤ p.toNat)
    (high : p.toNat < M.primero + M.puertos)
    : (vectorPositions p).toNat = p.toNat - M.primero := by
  have cell := (ramaDe_publicado M p.toNat p.toNat_lt).2 low high
  rwa [UInt8.ofNat_toNat] at cell

theorem celdas_publicado (M : Publicado) : M.modulo.celdas = M.puertos := by
  cases M <;> rfl

/-- A memory whose readings are all different from those at boot. -/
def SerialRam.unos : SerialRam :=
  {
    SerialRam.inicial with
    temperatura := Vector.replicate 3 ⟨1⟩
    analogico := Vector.replicate 8 ⟨1, 1⟩
    tanque := Vector.replicate 4 ⟨1, 1, 1, 1, 1⟩
    inclinacion := Vector.replicate 1 ⟨1, 1, 1⟩
    interruptor := Vector.replicate 2 ⟨1⟩
    ventilador := Vector.replicate 2 ⟨1⟩
  }

theorem inicial_ne_unos
    : ∀ modulo ∈ ModulosApp.conEnteros, ∀ c < modulo.celdas,
        (SerialRam.inicial.valores modulo)[c]? ≠ (SerialRam.unos.valores modulo)[c]? := by
  decide

/-- The loop fills the array from its first cell on and leaves the cells behind as they were. -/
theorem Archivo.valores_fill {M : Publicado} (A : Archivo M) {valores : List A.Registro}
    (fits : valores.length ≤ M.puertos) (ram : SerialRam)
    : (A.sitio.fill ram valores).cerrada.valores M.modulo
      = valores.map A.valoresDe ++ (ram.valores M.modulo).drop valores.length := by
  rw [valores_cerrada, A.alojado, A.alojado, Place.fill, A.sitio.cells_put,
    toList_overlay_append fits, List.map_append, List.map_drop]

/-- An accepted frame of the module ends well exactly if there are few enough fields and all can
be read, and then its records fill the array.
-/
theorem Archivo.parseData_guarda {M : Publicado} (A : Archivo M) {data : List Char} {trama : Trama}
    (leida : separar data = .ok (some trama)) (propio : trama.module = M.modulo.num)
    (atof : Str → UInt32) (ram ram' : SerialRam)
    : parseData atof data ram = .ok (.espOk, ram')
      ↔ trama.portMax ≠ 255 ∧ trama.llamada.sensorData = trama.campos
        ∧ trama.campos.length ≤ M.puertos
        ∧ ∃ valores,
            List.Forall₂ (fun token x => A.lee token = .ok x) trama.campos valores
            ∧ ram' = (A.sitio.fill ram valores).cerrada := by
  obtain ⟨-, ports⟩ := separar_acepta leida
  have small : M.puertos ≤ 256 := by
    cases M <;> decide
  -- the loop is a function of the frame, so that filling the array is all that it can do
  have filled {valores : List A.Registro} (tokens : trama.llamada.sensorData = trama.campos)
      (last : trama.portMax ≠ 255) (fits : trama.campos.length ≤ M.puertos)
      (legibles : List.Forall₂ (fun token x => A.lee token = .ok x) trama.campos valores)
      : asignar (guardar A.sitio A.lee) trama.portMax trama.portMin 0 trama.llamada.sensorData ram
        = .ok (A.sitio.fill ram valores) := by
    have loop := asignar_guardar A.sitio legibles small last ram trama.portMin [] ports
      (by simpa using fits)
    rw [Place.fill_nil, ← tokens] at loop
    exact loop
  rw [parseData_ok_iff leida (propio ▸ A.turno atof)]
  constructor
  · rintro ⟨final, ended, rfl⟩
    obtain ⟨last, tokens, fits, campos⟩ := legibles_of_asignar leida ended
    obtain ⟨valores, legibles⟩ := exists_forall₂ fun campo member => (campos campo member).2
    obtain rfl := Except.ok.inj (ended.symm.trans (filled tokens last fits legibles))
    exact ⟨last, tokens, fits, valores, legibles, rfl⟩
  · rintro ⟨last, tokens, fits, valores, legibles, rfl⟩
    exact ⟨_, filled tokens last fits legibles, rfl⟩

/-- A range that starts at the module's first port has its fields in the first cells. -/
theorem enSuPuerto_iff {M : Publicado} {trama : Trama} (primero : trama.portMin.toNat = M.primero)
    (high : trama.portMax.toNat < M.primero + M.puertos)
    (ports : trama.portMin.toNat + trama.campos.length = trama.portMax.toNat + 1)
    {valores : List (List Int32)}
    : EnSuPuerto trama M.modulo valores
      ↔ ∀ k (inside : k < trama.campos.length), valores[k]? = some (enteros trama.campos[k]) := by
  constructor
  · intro puertos k inside
    have bound := trama.portMax.toNat_lt
    have here : (UInt8.ofNat (M.primero + k)).toNat = M.primero + k :=
      UInt8.toNat_ofNat_of_lt' (by rw [UInt8.size]; omega)
    obtain ⟨-, -, campo, found, stored⟩ := puertos (UInt8.ofNat (M.primero + k))
      (UInt8.le_iff_toNat_le.mpr (by omega)) (UInt8.le_iff_toNat_le.mpr (by omega))
    rw [vectorPositions_publicado (M := M) (by omega) (by omega), here, Nat.add_sub_cancel_left]
      at stored
    rw [here, primero, Nat.add_sub_cancel_left, List.getElem?_eq_getElem inside] at found
    obtain rfl := Option.some.inj found
    exact stored
  · intro cells p low below
    rw [UInt8.le_iff_toNat_le] at low below
    have cell : (vectorPositions p).toNat = p.toNat - M.primero :=
      vectorPositions_publicado (by omega) (by omega)
    refine ⟨(ramaDe_iff M p).mpr (by omega), by rw [cell, celdas_publicado]; omega, _,
      List.getElem?_eq_getElem (by omega), ?_⟩
    rw [cell]
    simp only [primero]
    exact cells (p.toNat - M.primero) (by omega)

theorem conEnteros_publicado (M : Publicado) : M.modulo ∈ ModulosApp.conEnteros := by
  cases M <;> decide

section Publicado

variable {atof : Str → UInt32} {data : List Char} {trama : Trama} {M : Publicado}

/-- A frame that is stored fills the array with its records. -/
theorem guardada_of_archiva (leida : separar data = .ok (some trama))
    (propio : trama.module = M.modulo.num) {ram : SerialRam}
    (archiva : Archiva atof data trama M.modulo ram)
    : ∃ valores : List (archivo M).Registro,
        List.Forall₂ (fun token x => (archivo M).lee token = .ok x) trama.campos valores
        ∧ trama.llamada.sensorData = trama.campos
        ∧ EnSuPuerto trama M.modulo
          (valores.map (archivo M).valoresDe
            ++ (ram.valores M.modulo).drop trama.campos.length) := by
  obtain ⟨ram', ended, puertos⟩ := archiva
  obtain ⟨-, tokens, fits, valores, legibles, rfl⟩ :=
    ((archivo M).parseData_guarda leida propio atof ram ram').mp ended
  rw [(archivo M).valores_fill (by rwa [← legibles.length_eq]), ← legibles.length_eq] at puertos
  exact ⟨valores, legibles, tokens, puertos⟩

/-- The first and the last port of a frame that is stored are ports of the module. -/
theorem puertos_of_enSuPuerto {valores : List (List Int32)}
    (rango : trama.portMin.toNat ≤ trama.portMax.toNat)
    (puertos : EnSuPuerto trama M.modulo valores)
    : M.primero ≤ trama.portMin.toNat ∧ trama.portMax.toNat < M.primero + M.puertos := by
  have first := puertos trama.portMin (UInt8.le_iff_toNat_le.mpr (Nat.le_refl _))
    (UInt8.le_iff_toNat_le.mpr rango)
  have last := puertos trama.portMax (UInt8.le_iff_toNat_le.mpr rango)
    (UInt8.le_iff_toNat_le.mpr (Nat.le_refl _))
  exact ⟨((ramaDe_iff M _).mp first.1).1, ((ramaDe_iff M _).mp last.1).2⟩

/-- A range that starts later leaves the cell of its last port as it was. -/
theorem ultima_celda (leida : separar data = .ok (some trama))
    (propio : trama.module = M.modulo.num) {ram : SerialRam}
    (archiva : Archiva atof data trama M.modulo ram) (late : M.primero < trama.portMin.toNat)
    : ∃ campo,
        trama.campos[trama.portMax.toNat - trama.portMin.toNat]? = some campo
        ∧ (ram.valores M.modulo)[trama.portMax.toNat - M.primero]? = some (enteros campo) := by
  obtain ⟨-, ports⟩ := separar_acepta leida
  have some' := trama.campos_pos
  obtain ⟨valores, legibles, -, puertos⟩ := guardada_of_archiva leida propio archiva
  obtain ⟨rama, -, campo, found, cell⟩ := puertos trama.portMax
    (UInt8.le_iff_toNat_le.mpr (by omega)) (UInt8.le_iff_toNat_le.mpr (Nat.le_refl _))
  obtain ⟨low, high⟩ := (ramaDe_iff M _).mp rama
  refine ⟨campo, found, ?_⟩
  rw [vectorPositions_publicado low high, List.getElem?_append_right
    (by rw [List.length_map, ← legibles.length_eq]; omega), List.getElem?_drop, List.length_map,
    ← legibles.length_eq] at cell
  rwa [Nat.add_sub_cancel' (by omega)] at cell

/-- Whatever the arrays held, the frame is stored only if its range starts at the first port. -/
theorem primero_of_archiva (leida : separar data = .ok (some trama))
    (propio : trama.module = M.modulo.num)
    (archiva : ∀ ram, Archiva atof data trama M.modulo ram)
    : trama.portMin.toNat = M.primero ∧ trama.portMax.toNat < M.primero + M.puertos := by
  obtain ⟨-, ports⟩ := separar_acepta leida
  have some' := trama.campos_pos
  obtain ⟨_, -, -, puertos⟩ := guardada_of_archiva leida propio (archiva .inicial)
  obtain ⟨low, high⟩ := puertos_of_enSuPuerto (by omega) puertos
  refine ⟨?_, high⟩
  by_contra other
  have late : M.primero < trama.portMin.toNat := by
    omega
  obtain ⟨campo, found, inicial⟩ := ultima_celda leida propio (archiva .inicial) late
  obtain ⟨otro, again, unos⟩ := ultima_celda leida propio (archiva .unos) late
  obtain rfl := Option.some.inj (found.symm.trans again)
  exact inicial_ne_unos M.modulo (conEnteros_publicado M) (trama.portMax.toNat - M.primero)
    (by rw [celdas_publicado]; omega) (inicial.trans unos.symm)

theorem archivable_of_archiva (leida : separar data = .ok (some trama))
    (propio : trama.module = M.modulo.num)
    (archiva : ∀ ram, Archiva atof data trama M.modulo ram)
    : Archivable trama M.modulo := by
  obtain ⟨-, ports⟩ := separar_acepta leida
  have some' := trama.campos_pos
  obtain ⟨primero, high⟩ := primero_of_archiva leida propio archiva
  obtain ⟨valores, legibles, tokens, puertos⟩ := guardada_of_archiva leida propio (archiva .inicial)
  refine ⟨M, rfl, UInt8.toNat_inj.mp ?_, high, fun campo member => ?_⟩
  · rw [primero, puerto_toNat M 0 (by omega), Nat.add_zero]
  · obtain ⟨k, inside, rfl⟩ := List.getElem_of_mem member
    have cell := (enSuPuerto_iff primero high ports).mp puertos k inside
    have same : k < valores.length := legibles.length_eq ▸ inside
    rw [List.getElem?_append_left (by rwa [List.length_map]), List.getElem?_map,
      List.getElem?_eq_getElem same] at cell
    refine ((archivo M).fiel _ ?_).mp ⟨valores[k], ?_, Option.some.inj cell⟩
    · exact fields_eq_splitOn_iff.mp ((splitSensors_fst _ _).symm.trans tokens) _ member
    · exact legibles.get inside same

theorem archiva_of_archivable (leida : separar data = .ok (some trama))
    (propio : trama.module = M.modulo.num) (archivable : Archivable trama M.modulo)
    (ram : SerialRam)
    : Archiva atof data trama M.modulo ram := by
  obtain ⟨N, same, first, high, campos⟩ := archivable
  obtain rfl : N = M := by
    cases N <;> cases M <;> first | rfl | cases same
  obtain ⟨-, ports⟩ := separar_acepta leida
  have some' := trama.campos_pos
  have bound := trama.portMax.toNat_lt
  have few : N.primero + N.puertos < 256 ∧ 0 < N.puertos := by
    cases N <;> decide
  have primero : trama.portMin.toNat = N.primero := by
    rw [first, puerto_toNat N 0 few.2, Nat.add_zero]
  have last : trama.portMax ≠ 255 := by
    intro top
    have value : trama.portMax.toNat = 255 := congrArg UInt8.toNat top
    omega
  have nonempty : ∀ campo ∈ trama.campos, campo ≠ [] := by
    rintro campo member rfl
    exact (campos [] member).2 [] List.mem_cons_self rfl
  have tokens : trama.llamada.sensorData = trama.campos :=
    (splitSensors_fst _ _).trans (fields_eq_splitOn_iff.mpr nonempty)
  obtain ⟨valores, records⟩ := exists_forall₂ fun campo member =>
    ((archivo N).fiel campo (nonempty campo member)).mpr (campos campo member)
  have fits : trama.campos.length ≤ N.puertos := by
    omega
  refine ⟨_, ((archivo N).parseData_guarda leida propio atof ram _).mpr
    ⟨last, tokens, fits, valores, records.imp fun _ _ read => read.1, rfl⟩, ?_⟩
  rw [(archivo N).valores_fill (by rwa [← records.length_eq]), enSuPuerto_iff primero high ports]
  intro k inside
  have same : k < valores.length := records.length_eq ▸ inside
  rw [List.getElem?_append_left (by rwa [List.length_map]), List.getElem?_map,
    List.getElem?_eq_getElem same]
  exact congrArg some (records.get inside same).2

/-- Frames of the five modules with an array that is stored. -/
theorem archiva_publicado (leida : separar data = .ok (some trama))
    (propio : trama.module = M.modulo.num) (atof : Str → UInt32)
    : (∀ ram, Archiva atof data trama M.modulo ram) ↔ Archivable trama M.modulo := by
  constructor
  · exact archivable_of_archiva leida propio
  · exact archiva_of_archivable leida propio

end Publicado

/-- The digital input has a port of its own but no cell that this port leads to. -/
theorem no_archiva_digitalInput (atof : Str → UInt32) {data : List Char} {trama : Trama}
    (leida : separar data = .ok (some trama)) (ram : SerialRam)
    : ¬Archiva atof data trama .digitalInputSensors ram := by
  rintro ⟨ram', -, puertos⟩
  obtain ⟨-, ports⟩ := separar_acepta leida
  have some' := trama.campos_pos
  obtain ⟨rama, inside, -⟩ := puertos trama.portMin
    (UInt8.le_iff_toNat_le.mpr (Nat.le_refl _)) (UInt8.le_iff_toNat_le.mpr (by omega))
  have four : trama.portMin = 4 := by
    grind [ramaDe]
  rw [four] at inside
  exact absurd inside (by decide)

/-- The inclination loop stores nothing. -/
theorem asignar_quieto {portMax port i : UInt8} {tokens : List Str} {s last : SerialRam}
    (ended : asignar (fun s _ _ => .ok s) portMax port i tokens s = .ok last)
    : last = s := by
  obtain ⟨leidos, vueltas⟩ := asignar_iff_vueltas.mp ended
  clear ended
  induction vueltas with
  | fin _ => rfl
  | vuelta _ hecha _ ih => exact ih.trans (Except.ok.inj hecha).symm

theorem no_archiva_inclinacion (atof : Str → UInt32) {data : List Char} {trama : Trama}
    (leida : separar data = .ok (some trama))
    (propio : trama.module = ModulosApp.inclinacionSensors.num)
    : ¬∀ ram, Archiva atof data trama .inclinacionSensors ram := by
  intro archiva
  obtain ⟨-, ports⟩ := separar_acepta leida
  have some' := trama.campos_pos
  have chosen : turnoDe atof trama.module = some fun s _ _ => .ok s := by
    rw [propio]
    rfl
  have kept (ram : SerialRam) : EnSuPuerto trama .inclinacionSensors
      (ram.valores .inclinacionSensors) := by
    obtain ⟨ram', ended, puertos⟩ := archiva ram
    obtain ⟨last, loop, rfl⟩ := (parseData_ok_iff leida chosen).mp ended
    rw [asignar_quieto loop, valores_cerrada] at puertos
    exact puertos
  obtain ⟨rama, inside, campo, found, inicial⟩ := kept .inicial trama.portMin
    (UInt8.le_iff_toNat_le.mpr (Nat.le_refl _)) (UInt8.le_iff_toNat_le.mpr (by omega))
  obtain ⟨-, -, otro, again, unos⟩ := kept .unos trama.portMin
    (UInt8.le_iff_toNat_le.mpr (Nat.le_refl _)) (UInt8.le_iff_toNat_le.mpr (by omega))
  obtain rfl := Option.some.inj (found.symm.trans again)
  exact inicial_ne_unos .inclinacionSensors (by decide) _ inside (inicial.trans unos.symm)

-----------------------------------------------------------------------------------------
-- Main result
-----------------------------------------------------------------------------------------

/-- An accepted frame of a module with integers is stored at its ports, whatever the arrays held,
exactly if its range starts at the first port of one of the five modules that are stored, does not
leave the module, and has complete fields. Witness: `archiva_publicado`.
-/
theorem parseData_archiva_iff {data : List Char} {trama : Trama}
    (leida : separar data = .ok (some trama)) {modulo : ModulosApp}
    (enteros : modulo ∈ ModulosApp.digitalInputSensors :: ModulosApp.conEnteros)
    (propio : trama.module = modulo.num) (atof : Str → UInt32)
    : (∀ ram, Archiva atof data trama modulo ram) ↔ Archivable trama modulo := by
  have publicado (M : Publicado) (same : M.modulo = modulo)
      : (∀ ram, Archiva atof data trama modulo ram) ↔ Archivable trama modulo := by
    subst same
    exact archiva_publicado leida propio atof
  have never (other : ∀ M : Publicado, M.modulo ≠ modulo) : ¬Archivable trama modulo :=
    fun ⟨M, same, _⟩ => other M same
  cases modulo with
  | temperatureSensors => exact publicado .temperature rfl
  | liquidoSensors => exact publicado .liquido rfl
  | analogicoSensors => exact publicado .analogico rfl
  | ventiladorSensors => exact publicado .ventilador rfl
  | digitalOutputSensors => exact publicado .digitalOutput rfl
  | digitalInputSensors =>
      exact iff_of_false (fun archiva => no_archiva_digitalInput atof leida .inicial
        (archiva .inicial)) (never (by rintro ⟨⟩ <;> nofun))
  | inclinacionSensors =>
      exact iff_of_false (no_archiva_inclinacion atof leida propio)
        (never (by rintro ⟨⟩ <;> nofun))
  | _ => exact absurd enteros (by decide)

/-- The first of two tanks, with all its readings, in arrays that hold others. -/
theorem parseData_archiva_tanque
    : Archiva (fun _ => 0) ("p5-5d1:2:3:4:5m6".toList ++ [nul]) ⟨5, 5, 6, "1:2:3:4:5".toList⟩
        .liquidoSensors .unos := by
  have leida : separar ("p5-5d1:2:3:4:5m6".toList ++ [nul])
      = .ok (some ⟨5, 5, 6, "1:2:3:4:5".toList⟩) := by
    decide
  have enteros : ModulosApp.liquidoSensors
      ∈ ModulosApp.digitalInputSensors :: ModulosApp.conEnteros := by
    decide
  exact (parseData_archiva_iff leida enteros rfl fun _ => 0).mpr
    ⟨.liquido, rfl, rfl, by decide, by decide⟩ .unos

/-- A range behind the first port is stored in the cells of the ports in front of it. -/
theorem parseData_no_archiva
    : ¬∀ (atof : Str → UInt32) (data : List Char) (trama : Trama) (modulo : ModulosApp)
          (ram : SerialRam),
        separar data = .ok (some trama)
        → modulo ∈ ModulosApp.digitalInputSensors :: ModulosApp.conEnteros
        → trama.module = modulo.num
        → Archiva atof data trama modulo ram := by
  intro claim
  have leida : separar ("p1-1d5m1".toList ++ [nul]) = .ok (some ⟨1, 1, 1, ['5']⟩) := by
    decide
  obtain ⟨M, same, first, -⟩ := (archiva_publicado leida (M := .temperature) rfl fun _ => 0).mp
    fun ram => claim (fun _ => 0) _ _ .temperatureSensors ram leida (by decide) rfl
  cases M with
  | temperature => exact absurd first (by decide)
  | _ => cases same

end EspHttpControl.Serial
