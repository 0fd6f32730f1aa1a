import EspHttpControl.Serial.ParseData
import EspHttpControl.Serial.WebBuffer

/-! From a frame of the serial line to the web frame.
The two indexings meet here: `allocate_data` counts the ports of a frame, and
`web_buffer_constructor` looks a port up in `vector_positions`.
-/

namespace EspHttpControl.Serial

open CText Nvs

/-- The integers of a module's array, record by record; the other modules keep none. -/
def SerialRam.valores (ram : SerialRam) : ModulosApp → List (List Int32)
  | .temperatureSensors => ram.temperatura.toList.map Lectura.valores
  | .digitalInputSensors => ram.digitalInput.toList.map Lectura.valores
  | .liquidoSensors => ram.tanque.toList.map Tanques.valores
  | .inclinacionSensors => ram.inclinacion.toList.map Inclinaciones.valores
  | .analogicoSensors => ram.analogico.toList.map Analogicos.valores
  | .digitalOutputSensors => ram.interruptor.toList.map Lectura.valores
  | .ventiladorSensors => ram.ventilador.toList.map Lectura.valores
  | _ => []

/-- The modules whose frames carry integers for a fixed range of ports. -/
inductive Publicado
  | temperature | liquido | analogico | ventilador | digitalOutput
deriving DecidableEq, Repr

namespace Publicado

def modulo : Publicado → ModulosApp
  | .temperature => .temperatureSensors
  | .liquido => .liquidoSensors
  | .analogico => .analogicoSensors
  | .ventilador => .ventiladorSensors
  | .digitalOutput => .digitalOutputSensors

def primero : Publicado → Nat
  | .temperature => 0
  | .liquido => 5
  | .analogico => 10
  | .ventilador => 40
  | .digitalOutput => 42

def puertos : Publicado → Nat
  | .temperature => 3
  | .liquido => 4
  | .analogico => 8
  | .ventilador => 2
  | .digitalOutput => 2

/-- The number of values of each port. -/
def anchura : Publicado → Nat
  | .temperature => 1
  | .liquido => 5
  | .analogico => 2
  | .ventilador => 1
  | .digitalOutput => 1

/-- The flag that says that the module answered. -/
def marca (verificador : ModulosResponse) : Publicado → Bool
  | .temperature => verificador.temperatura
  | .liquido => verificador.liquido
  | .analogico => verificador.analogico
  | .ventilador => verificador.ventilador
  | .digitalOutput => verificador.digitalOutput

/-- The `j`-th port of the module. -/
def puerto (M : Publicado) (j : Nat) : UInt8 := UInt8.ofNat (M.primero + j)

/-- The frame that assigns values to all ports of the module. -/
def trama (M : Publicado) (valores : Vector (Vector Int32 M.anchura) M.puertos) : Str :=
  textoTrama (M.puerto 0) (M.puerto (M.puertos - 1)) M.modulo.num
    (valores.toList.map fun v => unidos v.toList)

end Publicado

example : Publicado.ventilador.trama #v[#v[-5], #v[70]] = "p40-41d-5,70m12".toList := by
  rfl

/-- Splitting joined values at the colons and reading the pieces gives the values back. -/
theorem splitSensors_unidos (valores : List Int32)
    : (splitSensors (unidos valores) [':']).1 = valores.map fun v => sprintD v.toInt := by
  rw [splitSensors_fst, unidos, fields_intercalate]
  · intro part among
    obtain ⟨v, -, rfl⟩ := List.mem_map.mp among
    exact sprintD_ne_nil v.toInt
  · intro part among
    obtain ⟨v, -, rfl⟩ := List.mem_map.mp among
    exact not_mem_sprintD v.toInt (by decide) (by decide)

/-- The record of one value, and its siblings below. -/
def deUno (v : Vector Int32 1) : Lectura := ⟨v.get ⟨0, Nat.zero_lt_one⟩⟩

def deDos (v : Vector Int32 2) : Analogicos := ⟨v[0], v[1]⟩

def deCinco (v : Vector Int32 5) : Tanques := ⟨v[0], v[1], v[2], v[3], v[4]⟩

theorem valores_deUno (v : Vector Int32 1) : (deUno v).valores = v.toList := by
  rcases v with ⟨⟨values⟩, size⟩
  match values, size with
  | [_], _ => rfl

theorem valores_deDos (v : Vector Int32 2) : (deDos v).valores = v.toList := by
  rcases v with ⟨⟨values⟩, size⟩
  match values, size with
  | [_, _], _ => rfl

theorem valores_deCinco (v : Vector Int32 5) : (deCinco v).valores = v.toList := by
  rcases v with ⟨⟨values⟩, size⟩
  match values, size with
  | [_, _, _, _, _], _ => rfl

theorem leeLectura_unidos (v : Vector Int32 1)
    : leeLectura (unidos v.toList) = .ok (deUno v) := by
  rw [← valores_deUno]
  simp only [leeLectura, Lectura.valores, unidos, List.map_cons, List.map_nil,
    List.intercalate_singleton, atoi_sprintD]

theorem leeAnalogico_unidos (v : Vector Int32 2)
    : leeAnalogico (unidos v.toList) = .ok (deDos v) := by
  rw [← valores_deDos]
  simp only [leeAnalogico, splitSensors_unidos, Analogicos.valores, List.map_cons, List.map_nil,
    campo_zero, campo_succ, bind, Except.bind, pure, Except.pure, atoi_sprintD]

theorem leeTanque_unidos (v : Vector Int32 5)
    : leeTanque (unidos v.toList) = .ok (deCinco v) := by
  rw [← valores_deCinco]
  simp only [leeTanque, splitSensors_unidos, Tanques.valores, List.map_cons, List.map_nil,
    campo_zero, campo_succ, bind, Except.bind, pure, Except.pure, atoi_sprintD]

-----------------------------------------------------------------------------------------
-- Storing a whole frame
-----------------------------------------------------------------------------------------

/-- A frame with one readable field for each port fills the array of its module and leaves
everything else but the fixed position and the event bit as it was.
-/
theorem parseData_trama {α : Type} {n w : Nat} {lee : Str → Except Fault α} {a b m : UInt8}
    (atof : Str → UInt32) (p : Place SerialRam α n) (de : Vector Int32 w → α)
    (turno : turnoDe atof m = some (guardar p lee))
    (legible : ∀ v : Vector Int32 w, lee (unidos v.toList) = .ok (de v))
    (rango : b.toNat + 1 = a.toNat + n) (formas : 0 < w ∧ 0 < n ∧ b ≠ 255 ∧ m ≠ 0)
    (valores : Vector (Vector Int32 w) n)
    (corta : (textoTrama a b m (valores.toList.map fun v => unidos v.toList)).length
      < uartPayloadSize)
    (resto : List Char) (ram : SerialRam)
    : parseData atof
        (textoTrama a b m (valores.toList.map fun v => unidos v.toList) ++ nul :: resto) ram
      = .ok (.espOk, { p.fill ram (valores.toList.map de) with
          sensorGPS := Vector.replicate 1 gpsFijo
          notParsingData := true }) := by
  obtain ⟨wide, someport, last, nonzero⟩ := formas
  have counted : (valores.toList.map fun v => unidos v.toList).length = n := by simp
  have nonempty : ∀ campo ∈ valores.toList.map fun v => unidos v.toList, campo ≠ [] := by
    intro campo among
    obtain ⟨v, -, rfl⟩ := List.mem_map.mp among
    exact unidos_ne_nil (List.ne_nil_of_length_pos (by simpa using wide))
  have clean : ∀ campo ∈ valores.toList.map fun v => unidos v.toList,
      ',' ∉ campo ∧ 'm' ∉ campo ∧ nul ∉ campo := by
    intro campo among
    obtain ⟨v, -, rfl⟩ := List.mem_map.mp among
    exact ⟨not_mem_unidos (by decide) _, not_mem_unidos (by decide) _,
      not_mem_unidos (by decide) _⟩
  have some_field : (valores.toList.map fun v => unidos v.toList) ≠ [] :=
    List.ne_nil_of_length_pos (by omega)
  have accepted : m ≠ 0 ∧ ((valores.toList.map fun v => unidos v.toList).length : Int)
      = b.toNat - a.toNat + 1 :=
    ⟨nonzero, by omega⟩
  have legibles : List.Forall₂ (fun token x => lee token = .ok x)
      (valores.toList.map fun v => unidos v.toList) (valores.toList.map de) := by
    rw [List.forall₂_map_left_iff, List.forall₂_map_right_iff, List.forall₂_same]
    exact fun v _ => legible v
  have stored : asignar (guardar p lee) b a 0 (valores.toList.map fun v => unidos v.toList) ram
      = .ok (p.fill ram (valores.toList.map de)) := by
    have small : n ≤ 256 := by
      have bound := b.toNat_lt
      omega
    have loop := asignar_guardar p legibles small last ram a [] (by omega)
      (by simp only [List.length_nil]; omega)
    rw [Place.fill_nil] at loop
    exact loop
  rw [parseData, separar_textoTrama some_field nonempty clean corta, if_pos accepted]
  simp only [bind, Except.bind]
  rw [splitSensors_fst, fields_intercalate nonempty fun campo among => (clean campo among).1,
    allocateData, asignarModulo, turno]
  simp only [bind, Except.bind, stored]
  rfl

/-- An array filled with the values of all its ports holds exactly these values. -/
theorem valores_overlay {α : Type} {n w : Nat} {valoresDe : α → List Int32}
    {de : Vector Int32 w → α} (inverse : ∀ v, valoresDe (de v) = v.toList) (v : Vector α n)
    (valores : Vector (Vector Int32 w) n)
    : (overlay v (valores.toList.map de)).toList.map valoresDe
      = valores.toList.map Vector.toList := by
  rw [toList_overlay (by simp) v, List.map_map]
  exact List.map_congr_left fun v _ => inverse v

/-- A module's own frame is accepted and stored in full, and the integers of every other
module stay as they were. Witness: `parseData_trama` at the array of the module.
-/
theorem parseData_publicado (M : Publicado)
    (valores : Vector (Vector Int32 M.anchura) M.puertos)
    (corta : (M.trama valores).length < uartPayloadSize) (atof : Str → UInt32)
    (resto : List Char) (ram : SerialRam)
    : ∃ ram',
        parseData atof (M.trama valores ++ nul :: resto) ram = .ok (.espOk, ram')
        ∧ ram'.valores M.modulo = valores.toList.map Vector.toList
        ∧ (∀ N, N ≠ M.modulo → ram'.valores N = ram.valores N)
        ∧ ram'.sensorGPS = Vector.replicate 1 gpsFijo := by
  -- the array of each module has one cell for every port, so only the range is left to check
  cases M with
  | temperature =>
      have stored := parseData_trama (b := 2) atof enTemperatura deUno rfl leeLectura_unidos rfl
        (by decide) valores corta resto ram
      refine ⟨_, stored, valores_overlay valores_deUno ram.temperatura valores, ?_, rfl⟩
      intro N other
      cases N <;> first | rfl | exact absurd rfl other
  | liquido =>
      have stored := parseData_trama (b := 8) atof enTanque deCinco rfl leeTanque_unidos rfl
        (by decide) valores corta resto ram
      refine ⟨_, stored, valores_overlay valores_deCinco ram.tanque valores, ?_, rfl⟩
      intro N other
      cases N <;> first | rfl | exact absurd rfl other
  | analogico =>
      have stored := parseData_trama (b := 17) atof enAnalogico deDos rfl leeAnalogico_unidos rfl
        (by decide) valores corta resto ram
      refine ⟨_, stored, valores_overlay valores_deDos ram.analogico valores, ?_, rfl⟩
      intro N other
      cases N <;> first | rfl | exact absurd rfl other
  | ventilador =>
      have stored := parseData_trama (b := 41) atof enVentilador deUno rfl leeLectura_unidos rfl
        (by decide) valores corta resto ram
      refine ⟨_, stored, valores_overlay valores_deUno ram.ventilador valores, ?_, rfl⟩
      intro N other
      cases N <;> first | rfl | exact absurd rfl other
  | digitalOutput =>
      have stored := parseData_trama (b := 43) atof enInterruptor deUno rfl leeLectura_unidos rfl
        (by decide) valores corta resto ram
      refine ⟨_, stored, valores_overlay valores_deUno ram.interruptor valores, ?_, rfl⟩
      intro N other
      cases N <;> first | rfl | exact absurd rfl other

-----------------------------------------------------------------------------------------
-- From the frame to the segments
-----------------------------------------------------------------------------------------

/-- `vector_positions` undoes the counting of the storing loop at every port of a module. -/
theorem vectorPositions_puerto (M : Publicado)
    : ∀ j < M.puertos, (vectorPositions (M.puerto j)).toNat = j := by
  cases M <;> decide

theorem puerto_toNat (M : Publicado)
    : ∀ j < M.puertos, (M.puerto j).toNat = M.primero + j := by
  cases M <;> decide

/-- The rendered record is the one that the loop filled, whatever lies outside the array. -/
theorem getElem?_valores {α : Type} {n j : Nat} (inside : j < n) (v : Vector α n)
    (valores : α → List Int32) (outside : α)
    : (v.toList.map valores)[j]?.getD [] = valores (load v j outside) := by
  simp [load, inside]

/-- At a port of a module that answered, its branch shows the record of that port. -/
theorem cuerpo_puerto (M : Publicado) {j : Nat} (inside : j < M.puertos) (fuera : Int32)
    (verificador : ModulosResponse) (ram : SerialRam)
    : cuerpo fuera verificador ram (M.puerto j)
      = .ok (siResponde (M.marca verificador)
          (unidos ((ram.valores M.modulo)[j]?.getD []))) := by
  have position := vectorPositions_puerto M j inside
  cases M with
  | temperature =>
      have range : ∀ j < 3, Publicado.temperature.puerto j ≤ 2 := by
        decide
      have branch := range j inside
      have record : (ram.valores Publicado.temperature.modulo)[j]?.getD []
          = (load ram.temperatura j ⟨fuera⟩).valores :=
        getElem?_valores inside ram.temperatura Lectura.valores _
      grind [cuerpo, Publicado.marca]
  | liquido =>
      have range : ∀ j < 4, 5 ≤ Publicado.liquido.puerto j
          ∧ Publicado.liquido.puerto j ≤ 8 := by
        decide
      have branch := range j inside
      have record : (ram.valores Publicado.liquido.modulo)[j]?.getD []
          = (load ram.tanque j ⟨fuera, fuera, fuera, fuera, fuera⟩).valores :=
        getElem?_valores inside ram.tanque Tanques.valores _
      grind [cuerpo, Publicado.marca]
  | analogico =>
      have range : ∀ j < 8, 10 ≤ Publicado.analogico.puerto j
          ∧ Publicado.analogico.puerto j ≤ 17 := by
        decide
      have branch := range j inside
      have record : (ram.valores Publicado.analogico.modulo)[j]?.getD []
          = (load ram.analogico j ⟨fuera, fuera⟩).valores :=
        getElem?_valores inside ram.analogico Analogicos.valores _
      grind [cuerpo, Publicado.marca]
  | ventilador =>
      have range : ∀ j < 2, 40 ≤ Publicado.ventilador.puerto j
          ∧ Publicado.ventilador.puerto j ≤ 41 := by
        decide
      have branch := range j inside
      have record : (ram.valores Publicado.ventilador.modulo)[j]?.getD []
          = (load ram.ventilador j ⟨fuera⟩).valores :=
        getElem?_valores inside ram.ventilador Lectura.valores _
      grind [cuerpo, Publicado.marca]
  | digitalOutput =>
      have range : ∀ j < 2, 42 ≤ Publicado.digitalOutput.puerto j
          ∧ Publicado.digitalOutput.puerto j ≤ 43 := by
        decide
      have branch := range j inside
      have record : (ram.valores Publicado.digitalOutput.modulo)[j]?.getD []
          = (load ram.interruptor j ⟨fuera⟩).valores :=
        getElem?_valores inside ram.interruptor Lectura.valores _
      grind [cuerpo, Publicado.marca]

/-- A module's own frame is published end to end: it is accepted, no other module's integers
change, and whatever keys are registered and whatever ports they have, the segment of a key
at the `j`-th port of the module shows the values that the frame gave that port. Witness:
`parseData_publicado`, then the branch of the port in each segment.
-/
theorem trama_publicada (M : Publicado)
    (valores : Vector (Vector Int32 M.anchura) M.puertos)
    (corta : (M.trama valores).length < uartPayloadSize) (atof : Str → UInt32)
    (resto : List Char) (ram : SerialRam) (keys : List KeyValue) (nvs : Almacen)
    (verificador : ModulosResponse) (marcado : M.marca verificador = true) (fuera : Int32)
    : ∃ ram',
        parseData atof (M.trama valores ++ nul :: resto) ram = .ok (.espOk, ram')
        ∧ (∀ N, N ≠ M.modulo → ram'.valores N = ram.valores N)
        ∧ ram'.sensorGPS = Vector.replicate 1 gpsFijo
        ∧ ∃ webBuffer,
            webBufferConstructor fuera nvs keys verificador ram' = .ok webBuffer
            ∧ (fields ['|'] webBuffer).length = keys.length
            ∧ ∀ (i : Nat) (key : KeyValue) (j : Fin M.puertos),
                keys[i]? = some key
                → puerto nvs key = M.puerto j
                → (fields ['|'] webBuffer)[i]?
                  = some (sprintD key.num.toNat ++ ':' :: sprintD (M.primero + j : Nat)
                    ++ ':' :: unidos valores[j].toList) := by
  obtain ⟨ram', stored, contents, frame, gps⟩ :=
    parseData_publicado M valores corta atof resto ram
  have first : ram'.sensorGPS[0].valor2 = some "1677863090000".toList := by
    simp [gps, gpsFijo]
  have listo : GpsListo ram' := by
    simpa only [GpsListo, first] using Option.some_ne_none _
  have limpio : SinBarra ram' := by
    intro timestamp found
    rw [first] at found
    obtain rfl := Option.some.inj found
    decide
  obtain ⟨webBuffer, built⟩ := webBufferConstructor_ok (fun _ => listo) fuera nvs keys
  have pairs := fields_webBuffer limpio built
  refine ⟨ram', stored, frame, gps, webBuffer, built, pairs.length_eq.symm, ?_⟩
  intro i key j registered port
  obtain ⟨inKeys, at_key⟩ := List.getElem?_eq_some_iff.mp registered
  have inFields : i < (fields ['|'] webBuffer).length := pairs.length_eq ▸ inKeys
  have segment := pairs.get inKeys inFields
  have record : (ram'.valores M.modulo)[j.val]?.getD [] = valores[j].toList := by
    simp [contents]
  have value := puerto_toNat M j j.isLt
  rw [List.get_eq_getElem, at_key, segmento, port, cuerpo_puerto M j.isLt, record, marcado,
    value] at segment
  rw [List.getElem?_eq_getElem inFields]
  exact congrArg some (Except.ok.inj segment).symm

/-- Three temperatures, with the second one negative and shown by `NEVERA`. -/
theorem trama_publicada_temperaturas
    : ∃ ram',
        parseData (fun _ => 0) ("p0-2d21,-4,7m1".toList ++ [nul]) .inicial
          = .ok (.espOk, ram')
        ∧ ∃ webBuffer,
            webBufferConstructor 0 (writexNvs .empty "1_NEVERA" "1".toList)
              [.temptrans, .nevera] { ModulosResponse.cero with temperatura := true } ram'
              = .ok webBuffer
            ∧ (fields ['|'] webBuffer)[1]? = some "18:1:-4".toList := by
  obtain ⟨ram', stored, -, -, webBuffer, built, -, shown⟩ :=
    trama_publicada .temperature #v[#v[21], #v[-4], #v[7]] (by decide) (fun _ => 0) [] .inicial
      [.temptrans, .nevera] (writexNvs .empty "1_NEVERA" "1".toList)
      { ModulosResponse.cero with temperatura := true } rfl 0
  have segment := shown 1 .nevera ⟨1, by decide⟩ rfl rfl
  exact ⟨ram', stored, webBuffer, built, segment⟩

end EspHttpControl.Serial
