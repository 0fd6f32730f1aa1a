import EspHttpControl.Serial.Decodificacion

/-! Which array elements the web frame is built from.
`web_buffer_constructor` chooses a branch by ranges of ports and `vector_positions` chooses the
index by a table of its own, with 255 for the ports that it does not name.
-/

namespace EspHttpControl.Serial

open CText Nvs

/-- The size of a module's array, that of the positions among them. -/
def ModulosApp.arreglo : ModulosApp → Nat
  | .gpsSensors => 1
  | modulo => modulo.celdas

/-- The array element that is read for a port: one of the module of its branch, at the index of
its position, unless the module did not answer.
-/
def elementoLeido (verificador : ModulosResponse) (port : UInt8) : Option (ModulosApp × Nat) :=
  match ramaDe port with
  | none => none
  | some modulo =>
    if verificador.marca modulo then some (modulo, (vectorPositions port).toNat) else none

/-- What is read for a port, if anything, is an element of its array. -/
def Dentro (verificador : ModulosResponse) (port : UInt8) : Prop :=
  ∀ elemento, elementoLeido verificador port = some elemento → elemento.2 < elemento.1.arreglo

theorem dentro_rama {port : UInt8} {modulo : ModulosApp} (rama : ramaDe port = some modulo)
    (verificador : ModulosResponse)
    : Dentro verificador port
      ↔ (verificador.marca modulo = true → (vectorPositions port).toNat < modulo.arreglo) := by
  rw [Dentro, elementoLeido, rama]
  dsimp only
  cases verificador.marca modulo with
  | false => simp
  | true =>
      constructor
      · exact fun inside _ => inside _ rfl
      · rintro inside _ ⟨rfl⟩
        exact inside rfl

/-- The two tables agree on every port but that of the digital input. -/
theorem posicion_arreglo
    : ∀ n < 256, ∀ modulo, ramaDe (UInt8.ofNat n) = some modulo
        → ((vectorPositions (UInt8.ofNat n)).toNat < modulo.arreglo ↔ n ≠ 4) := by
  have table : ∀ n < 256, ∀ modulo ∈ ramaDe (UInt8.ofNat n),
      ((vectorPositions (UInt8.ofNat n)).toNat < modulo.arreglo ↔ n ≠ 4) := by
    decide +kernel
  exact fun n small modulo rama => table n small modulo rama

theorem posicion_dentro_iff {port : UInt8} {modulo : ModulosApp} (rama : ramaDe port = some modulo)
    : (vectorPositions port).toNat < modulo.arreglo ↔ port ≠ 4 := by
  have table := posicion_arreglo port.toNat port.toNat_lt modulo
  rw [UInt8.ofNat_toNat] at table
  rw [table rama]
  exact not_congr ⟨fun same => UInt8.toNat_inj.mp same, fun same => congrArg UInt8.toNat same⟩

/-- A read goes astray exactly at the port of the digital input, once this module answered. -/
theorem dentro_iff (verificador : ModulosResponse) (port : UInt8)
    : Dentro verificador port ↔ ¬(verificador.digitalInput = true ∧ port = 4) := by
  cases rama : ramaDe port with
  | none =>
      have other : port ≠ 4 := by
        rintro rfl
        cases rama
      simp [Dentro, elementoLeido, rama, other]
  | some modulo =>
      rw [dentro_rama rama, posicion_dentro_iff rama, not_and]
      by_cases four : port = 4
      · subst four
        obtain rfl : modulo = .digitalInputSensors := (Option.some.inj rama).symm
        rfl
      · exact iff_of_true (fun _ => four) fun _ => four

theorem arreglo_entero {modulo : ModulosApp} (entera : modulo ≠ .gpsSensors)
    : modulo.arreglo = modulo.celdas := by
  cases modulo <;> first | rfl | exact absurd rfl entera

-----------------------------------------------------------------------------------------
-- What the frame depends on
-----------------------------------------------------------------------------------------

/-- The text of a branch depends on what lies outside of the arrays exactly if it reads there. -/
theorem cuerpo_fuera_iff (verificador : ModulosResponse) (ram : SerialRam) (port : UInt8)
    : (∀ fuera otro, cuerpo fuera verificador ram port = cuerpo otro verificador ram port)
      ↔ Dentro verificador port := by
  constructor
  · intro same
    rw [dentro_iff]
    rintro ⟨answered, rfl⟩
    have rama : ramaDe 4 = some .digitalInputSensors := rfl
    have printed (fuera : Int32) : cuerpo fuera verificador ram 4
        = .ok (unidos [fuera]) := by
      rw [cuerpo_rama rama nofun]
      simp only [ModulosResponse.marca, answered, siResponde, ↓reduceIte]
      rfl
    have equal := Except.ok.inj ((printed 0).symm.trans ((same 0 1).trans (printed 1)))
    exact absurd equal (by decide)
  · intro inside fuera otro
    cases rama : ramaDe port with
    | none => rw [cuerpo_sin_rama rama, cuerpo_sin_rama rama]
    | some modulo =>
        by_cases position : modulo = .gpsSensors
        · subst position
          rw [ramaDe_gps rama, cuerpo_gps, cuerpo_gps]
        · rw [cuerpo_rama rama position, cuerpo_rama rama position]
          cases answered : verificador.marca modulo with
          | false => rfl
          | true =>
              have bound := (dentro_rama rama verificador).mp inside answered
              have cell : (vectorPositions port).toNat < modulo.celdas := by
                rwa [arreglo_entero position] at bound
              have other := (posicion_dentro_iff rama).mp bound
              have enteros : modulo ∈ ModulosApp.conEnteros := by
                grind [ramaDe, ModulosApp.conEnteros]
              have stored (fuera : Int32) := lectura_guardada enteros cell fuera ram
              rw [Option.some.inj ((stored fuera).symm.trans (stored otro))]

-----------------------------------------------------------------------------------------
-- The ports that the firmware assigns by itself
-----------------------------------------------------------------------------------------

/-- The keys that `matricular_llaves` gives a port, in its order. -/
def matricula : List (KeyValue × UInt16) :=
  [
    -- temperatura
    (.temptrans, 0), (.nevera, 1),
    -- ventiladores
    (.ventiladorA, 40), (.ventiladorC, 41),
    -- entrada digital
    (.inputDigital1, 4),
    -- tanques
    (.greywater, 6), (.oilother, 7), (.ballast, 8),
    -- inclinacion
    (.inclinacionDispRollPitchYaw, 9),
    -- analógico
    (.presacei, 10), (.prescom, 11), (.acelerador1, 12), (.acelerador2, 13), (.acelerador3, 14),
    (.acelerador4, 15), (.bateriaACur, 16), (.presionDisp, 17),
    -- interruptores
    (.fgdTransmTraccion, 42), (.rgdTransmTraccion, 43),
    -- GPS
    (.gnssGga, 18)
  ]

/-- `matricular_llaves` -/
def matricularLlaves (nvs : Almacen) : Almacen :=
  matricula.foldl (fun nvs entrada => preWritexNvs nvs entrada.1 entrada.2) nvs

theorem matricula_wellFormed
    : (matricula.map Prod.fst).Nodup
      ∧ ∀ entrada ∈ matricula, Admite entrada.1.registro ∧ entrada.2 ≤ 253 := by
  decide +kernel

theorem matricularLlaves_eq (nvs : Almacen)
    : matricularLlaves nvs
      = nvs.writeAll (matricula.map fun entrada =>
          (entrada.1.registro, sprintD entrada.2.toNat)) := by
  rw [Registers.Store.writeAll, List.foldl_map]
  rfl

/-- Each key of the list reads as its port behind the assignment, whatever was stored before. -/
theorem preReadxNvs_matricularLlaves (nvs : Almacen)
    : ∀ entrada ∈ matricula, preReadxNvs (matricularLlaves nvs) entrada.1 = entrada.2 := by
  intro entrada member
  obtain ⟨distintas, cada⟩ := matricula_wellFormed
  obtain ⟨admite, small⟩ := cada entrada member
  have names : ((matricula.map fun entrada : KeyValue × UInt16 =>
      (entrada.1.registro, sprintD entrada.2.toNat)).map Prod.fst).Nodup := by
    have renamed := distintas.map KeyValue.registro_injective
    rwa [List.map_map] at renamed ⊢
  have held : (matricularLlaves nvs).get entrada.1.registro
      = some (Nat.toDigits 10 entrada.2.toNat) := by
    rw [matricularLlaves_eq]
    exact Registers.Store.get_writeAll_of_mem names (List.mem_map_of_mem member) admite nvs
  have bound : entrada.2.toNat ≤ 253 := UInt16.le_iff_toNat_le.mp small
  rw [preReadxNvs_puerto (by omega) held, UInt16.ofNat_toNat]

theorem registrada_matricularLlaves (nvs : Almacen)
    : ∀ entrada ∈ matricula, Registrada (matricularLlaves nvs) entrada.1 := by
  intro entrada member
  have small := (matricula_wellFormed.2 entrada member).2
  refine registrada_of_puerto (UInt16.le_iff_toNat_le.mp small) ?_
  rw [preReadxNvs_matricularLlaves nvs entrada member]

-----------------------------------------------------------------------------------------
-- Main result
-----------------------------------------------------------------------------------------

/-- What should hold whenever the frame is built: what is read for a loaded key is an element of
the array of its branch.
-/
def LeeDentro (nvs : Almacen) (verificador : ModulosResponse) : Prop :=
  ∀ key ∈ (loadKeysWithPortAssignedToRAM nvs).keysWithPorts,
    Dentro verificador (puerto nvs key)

/-- Frames with the same segments are the same, by induction on the keys. -/
theorem webBufferConstructor_congr {nvs : Almacen} {verificador : ModulosResponse}
    {ram : SerialRam} {fuera otro : Int32} {keys : List KeyValue}
    (same : ∀ key ∈ keys,
      segmento fuera nvs verificador ram key = segmento otro nvs verificador ram key)
    : webBufferConstructor fuera nvs keys verificador ram
      = webBufferConstructor otro nvs keys verificador ram := by
  have scan (keys : List KeyValue) (anterior : Str)
      (same : ∀ key ∈ keys,
        segmento fuera nvs verificador ram key = segmento otro nvs verificador ram key)
      : keys.foldlM (fun webBuffer key => do
          let texto ← segmento fuera nvs verificador ram key
          return webBuffer ++ texto ++ ['|']) anterior
        = keys.foldlM (fun webBuffer key => do
          let texto ← segmento otro nvs verificador ram key
          return webBuffer ++ texto ++ ['|']) anterior := by
    induction keys generalizing anterior with
    | nil => rw [List.foldlM_nil, List.foldlM_nil]
    | cons key rest ih =>
        obtain ⟨here, later⟩ := List.forall_mem_cons.mp same
        rw [List.foldlM_cons, List.foldlM_cons, here]
        refine bind_congr fun webBuffer => ?_
        exact ih webBuffer later
  exact scan keys ['|'] same

/-- Without a read that goes astray the frame depends on the arrays only. -/
theorem webBuffer_sin_fuera {nvs : Almacen} {verificador : ModulosResponse}
    (dentro : LeeDentro nvs verificador) (ram : SerialRam) (fuera otro : Int32)
    : webBufferConstructor fuera nvs (loadKeysWithPortAssignedToRAM nvs).keysWithPorts verificador
        ram
      = webBufferConstructor otro nvs (loadKeysWithPortAssignedToRAM nvs).keysWithPorts verificador
        ram := by
  apply webBufferConstructor_congr
  intro key loaded
  have independent := (cuerpo_fuera_iff verificador ram _).mpr (dentro key loaded)
  rw [segmento, segmento, independent fuera otro]

/-- Building the frame reads inside the arrays exactly if the digital input did not answer or no
loaded key has its port. Witness: `dentro_iff` at each key.
-/
theorem webBuffer_dentro_iff (nvs : Almacen) (verificador : ModulosResponse)
    : LeeDentro nvs verificador
      ↔ ¬(verificador.digitalInput = true
          ∧ ∃ key ∈ (loadKeysWithPortAssignedToRAM nvs).keysWithPorts, puerto nvs key = 4) := by
  constructor
  · rintro dentro ⟨answered, key, loaded, four⟩
    exact (dentro_iff verificador _).mp (dentro key loaded) ⟨answered, four⟩
  · intro none' key loaded
    exact (dentro_iff verificador _).mpr fun stray => none' ⟨stray.1, key, loaded, stray.2⟩

/-- The firmware's own assignment gives the digital input a port, whatever was stored before. -/
theorem matricularLlaves_dentro_iff (nvs : Almacen) (verificador : ModulosResponse)
    : LeeDentro (matricularLlaves nvs) verificador ↔ verificador.digitalInput = false := by
  constructor
  · intro dentro
    have entrada : (KeyValue.inputDigital1, (4 : UInt16)) ∈ matricula := by
      decide
    have loaded := mem_loadKeys.mpr (registrada_matricularLlaves nvs _ entrada)
    have four : puerto (matricularLlaves nvs) .inputDigital1 = 4 := by
      rw [puerto, preReadxNvs_matricularLlaves nvs _ entrada]
      rfl
    have inside := (dentro_iff verificador _).mp (dentro _ loaded)
    rwa [not_and, imp_not_comm, imp_iff_right four, Bool.not_eq_true] at inside
  · intro silent key _
    rw [dentro_iff, silent]
    exact fun stray => Bool.false_ne_true stray.1

theorem webBuffer_no_dentro
    : ¬∀ (nvs : Almacen) (verificador : ModulosResponse), LeeDentro nvs verificador := by
  intro claim
  have silent := (matricularLlaves_dentro_iff .empty _).mp
    (claim (matricularLlaves .empty) { ModulosResponse.cero with digitalInput := true })
  cases silent

end EspHttpControl.Serial
