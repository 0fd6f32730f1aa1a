import EspHttpControl.Serial.Tramas

/-! The turns of the storing loop.
`allocate_data` counts ports, cells and tokens in bytes, up to a bound that comes from the line;
an access outside of an array or behind the last token leaves its behaviour undefined.
-/

namespace EspHttpControl.Serial

open CText

/-- The turns of `while (port <= port_max)` up to its end, with the tokens that they read. -/
inductive Vueltas (turno : SerialRam → UInt8 → Str → Except Fault SerialRam) (portMax : UInt8)
    : UInt8 → UInt8 → List Str → List Str → SerialRam → SerialRam → Prop
  | fin {port i tokens s} (past : ¬port ≤ portMax) : Vueltas turno portMax port i tokens [] s s
  | vuelta {port i token tokens leidos s siguiente last} (more : port ≤ portMax)
    (hecha : turno s i token = .ok siguiente)
    (later : Vueltas turno portMax (port + 1) (i + 1) tokens leidos siguiente last)
    : Vueltas turno portMax port i (token :: tokens) (token :: leidos) s last

variable {turno : SerialRam → UInt8 → Str → Except Fault SerialRam} {portMax port i : UInt8}
  {tokens leidos : List Str} {s last : SerialRam}

/-- The loop ends well exactly if its turns come to an end, by induction on the tokens. -/
theorem asignar_iff_vueltas
    : asignar turno portMax port i tokens s = .ok last
      ↔ ∃ leidos, Vueltas turno portMax port i tokens leidos s last := by
  constructor
  · intro ended
    induction tokens generalizing port i s with
    | nil =>
        rw [asignar] at ended
        split at ended
        · cases ended
        · next past =>
          obtain rfl := Except.ok.inj ended
          exact ⟨[], .fin past⟩
    | cons token rest ih =>
        rw [asignar] at ended
        split at ended
        · next more =>
          obtain ⟨siguiente, hecha, later⟩ := ok_of_bind ended
          obtain ⟨leidos, vueltas⟩ := ih later
          exact ⟨token :: leidos, .vuelta more hecha vueltas⟩
        · next past =>
          obtain rfl := Except.ok.inj ended
          exact ⟨[], .fin past⟩
  · rintro ⟨leidos, vueltas⟩
    induction vueltas with
    | @fin port i tokens s past =>
        cases tokens with
        | nil => rw [asignar, if_neg past]
        | cons token rest => rw [asignar, if_neg past]
    | vuelta more hecha _ ih =>
        rw [asignar, if_pos more, hecha]
        exact ih

/-- The tokens are read in order from the first one on, each of them once. -/
theorem Vueltas.leidos_prefix (vueltas : Vueltas turno portMax port i tokens leidos s last)
    : leidos <+: tokens := by
  induction vueltas with
  | fin _ => exact List.nil_prefix
  | vuelta _ _ _ ih => exact (List.prefix_cons_inj _).mpr ih

/-- Below 255 there is always a port that is past the last one. -/
theorem Vueltas.portMax_ne (vueltas : Vueltas turno portMax port i tokens leidos s last)
    : portMax ≠ 255 := by
  induction vueltas with
  | @fin port _ _ _ past =>
      rintro rfl
      have bound := port.toNat_lt
      exact past (UInt8.le_iff_toNat_le.mpr (Nat.le_of_lt_succ bound))
  | vuelta _ _ _ ih => exact ih

theorem succ_toNat {port portMax : UInt8} (last : portMax ≠ 255) (more : port ≤ portMax)
    : (port + 1).toNat = port.toNat + 1 := by
  have bound := portMax.toNat_lt
  have ne : portMax.toNat ≠ 255 := fun same => last (UInt8.toNat_inj.mp same)
  have within := UInt8.le_iff_toNat_le.mp more
  have one : (1 : UInt8).toNat = 1 := rfl
  rw [UInt8.toNat_add, one]
  omega

/-- There is one turn for each port up to the last one. -/
theorem Vueltas.length_leidos (vueltas : Vueltas turno portMax port i tokens leidos s last)
    (start : port.toNat ≤ portMax.toNat + 1)
    : port.toNat + leidos.length = portMax.toNat + 1 := by
  induction vueltas with
  | fin past =>
      rw [UInt8.le_iff_toNat_le] at past
      rw [List.length_nil]
      omega
  | vuelta more _ later ih =>
      have next := succ_toNat later.portMax_ne more
      have within := UInt8.le_iff_toNat_le.mp more
      have rest := ih (by omega)
      rw [List.length_cons]
      omega

/-- A turn goes well exactly on a cell of the array and a token that can be read. -/
def Alcanza (turno : SerialRam → UInt8 → Str → Except Fault SerialRam) (huecos : Nat)
    (legible : Str → Prop)
    : Prop :=
  ∀ s i token, (∃ siguiente, turno s i token = .ok siguiente)
    ↔ i.toNat < huecos ∧ legible token

/-- What the turns read was readable, and what they filled was there. -/
theorem Vueltas.alcanzan {huecos : Nat} {legible : Str → Prop}
    (alcanza : Alcanza turno huecos legible)
    (vueltas : Vueltas turno portMax port i tokens leidos s last)
    (room : i.toNat + leidos.length ≤ 256)
    : (∀ token ∈ leidos, legible token)
      ∧ ∀ k < leidos.length, i.toNat + k < huecos := by
  induction vueltas with
  | fin _ => exact ⟨fun _ member => absurd member List.not_mem_nil, fun _ few => absurd few (by simp)⟩
  | @vuelta port i token tokens leidos s siguiente last more hecha later ih =>
      obtain ⟨cell, parts⟩ := (alcanza s i token).mp ⟨siguiente, hecha⟩
      rw [List.length_cons] at room
      have one : (1 : UInt8).toNat = 1 := rfl
      by_cases none' : leidos = []
      · subst none'
        refine ⟨List.forall_mem_singleton.mpr parts, fun k few => ?_⟩
        rw [List.length_singleton] at few
        omega
      · have some' := List.length_pos_iff.mpr none'
        have next : (i + 1).toNat = i.toNat + 1 := by
          rw [UInt8.toNat_add, one]
          omega
        obtain ⟨restParts, restCells⟩ := ih (by omega)
        refine ⟨List.forall_mem_cons.mpr ⟨parts, restParts⟩, fun k few => ?_⟩
        cases k with
        | zero => exact cell
        | succ k =>
            rw [List.length_cons] at few
            have cells := restCells k (by omega)
            omega

/-- The loop comes to its end over readable tokens for cells that are there, by induction on the
tokens.
-/
theorem vueltas_of_alcanza {huecos : Nat} {legible : Str → Prop}
    (alcanza : Alcanza turno huecos legible)
    (last : portMax ≠ 255) (rest : List Str) {port i : UInt8} {s : SerialRam}
    (parts : ∀ token ∈ leidos, legible token)
    (cells : ∀ k < leidos.length, i.toNat + k < huecos)
    (room : i.toNat + leidos.length ≤ 256)
    (ports : port.toNat + leidos.length = portMax.toNat + 1)
    : ∃ final, Vueltas turno portMax port i (leidos ++ rest) leidos s final := by
  induction leidos generalizing port i s with
  | nil =>
      refine ⟨s, .fin ?_⟩
      rw [UInt8.le_iff_toNat_le]
      simp only [List.length_nil] at ports
      omega
  | cons token leidos ih =>
      rw [List.length_cons] at cells room ports
      have more : port ≤ portMax := UInt8.le_iff_toNat_le.mpr (by omega)
      have next := succ_toNat last more
      obtain ⟨here, later⟩ := List.forall_mem_cons.mp parts
      obtain ⟨siguiente, hecha⟩ := (alcanza s i token).mpr ⟨cells 0 (by omega), here⟩
      by_cases none' : leidos = []
      · subst none'
        refine ⟨siguiente, .vuelta more hecha (.fin ?_)⟩
        rw [UInt8.le_iff_toNat_le, next]
        simp only [List.length_nil] at ports
        omega
      · have some' := List.length_pos_iff.mpr none'
        have one : (1 : UInt8).toNat = 1 := rfl
        have cell : (i + 1).toNat = i.toNat + 1 := by
          rw [UInt8.toNat_add, one]
          omega
        have behind : ∀ k < leidos.length, (i + 1).toNat + k < huecos := by
          intro k few
          have inside := cells (k + 1) (by omega)
          omega
        obtain ⟨final, vueltas⟩ : ∃ final,
            Vueltas turno portMax (port + 1) (i + 1) (leidos ++ rest) leidos siguiente final :=
          ih later behind (by omega) (by omega)
        exact ⟨final, .vuelta more hecha vueltas⟩

-----------------------------------------------------------------------------------------
-- The eight loops
-----------------------------------------------------------------------------------------

namespace ModulosApp

/-- The modules that have a storing loop. -/
def conLazo : List ModulosApp :=
  [.temperatureSensors, .digitalInputSensors, .liquidoSensors, .analogicoSensors, .gpsSensors,
    .digitalOutputSensors, .ventiladorSensors, .inclinacionSensors]

/-- The cells that the loop of a module can fill; that of the inclinations fills none. -/
def huecos : ModulosApp → Nat
  | .temperatureSensors => 3
  | .digitalInputSensors => 1
  | .liquidoSensors => 4
  | .analogicoSensors => 8
  | .gpsSensors => 1
  | .digitalOutputSensors => 2
  | .ventiladorSensors => 2
  | _ => 256

/-- The parts between colons that the loop of a module uses of every field. -/
def partes : ModulosApp → Nat
  | .liquidoSensors => 5
  | .analogicoSensors => 2
  | .gpsSensors => 8
  | _ => 0

end ModulosApp

/-- The token has at least so many parts between colons. -/
def ConPartes (partes : Nat) (token : Str) : Prop := partes ≤ (fields [':'] token).length

instance (partes : Nat) (token : Str) : Decidable (ConPartes partes token) :=
  inferInstanceAs (Decidable (_ ≤ _))

theorem alcanza_guardar {α : Type} {n : Nat} (p : Place SerialRam α n)
    (lee : Str → Except Fault α)
    : Alcanza (guardar p lee) n fun token => ∃ x, lee token = .ok x := by
  intro s i token
  rw [guardar]
  dsimp only
  cases read : lee token with
  | error fault => simp [bind, Except.bind]
  | ok x =>
      by_cases cell : i.toNat < n
      · simp [bind, Except.bind, Place.store, CText.store, cell]
      · simp [bind, Except.bind, Place.store, CText.store, cell]

theorem alcanza_lectura {n : Nat} (p : Place SerialRam Lectura n)
    : Alcanza (guardar p leeLectura) n (ConPartes 0) := by
  intro s i token
  rw [alcanza_guardar]
  exact and_congr_right fun _ => iff_of_true ⟨_, rfl⟩ (Nat.zero_le _)

theorem alcanza_analogico : Alcanza (guardar enAnalogico leeAnalogico) 8 (ConPartes 2) := by
  intro s i token
  rw [alcanza_guardar, ConPartes, ← splitSensors_fst]
  refine and_congr_right fun _ => ?_
  simp only [leeAnalogico, exists_bind_campo, exists_pure_ok, exists_prop, and_true]
  omega

theorem alcanza_tanque : Alcanza (guardar enTanque leeTanque) 4 (ConPartes 5) := by
  intro s i token
  rw [alcanza_guardar, ConPartes, ← splitSensors_fst]
  refine and_congr_right fun _ => ?_
  simp only [leeTanque, exists_bind_campo, exists_pure_ok, exists_prop, and_true]
  omega

theorem alcanza_gps (atof : Str → UInt32) : Alcanza (guardarGPS atof) 1 (ConPartes 8) := by
  intro s i token
  rw [guardarGPS, ConPartes, ← splitSensors_fst]
  by_cases cell : i.toNat < 1
  · rw [Vector.getElem?_eq_getElem cell]
    rw [alcanza_guardar]
    refine and_congr_right fun _ => ?_
    simp only [exists_bind_campo, exists_pure_ok, exists_prop, and_true]
    omega
  · rw [Vector.getElem?_eq_none (Nat.not_lt.mp cell)]
    simp [cell]

/-- A loop that stores nothing runs on any token. -/
theorem alcanza_inclinacion : Alcanza (fun s _ _ => .ok s) 256 (ConPartes 0) :=
  fun s i _ => iff_of_true ⟨s, rfl⟩ ⟨i.toNat_lt, Nat.zero_le _⟩

/-- Each of the eight loops runs on its cells and on fields with its number of parts. -/
theorem turnoDe_conLazo {modulo : ModulosApp} (conLazo : modulo ∈ ModulosApp.conLazo)
    (atof : Str → UInt32)
    : ∃ turno, turnoDe atof modulo.num = some turno
        ∧ Alcanza turno modulo.huecos (ConPartes modulo.partes) := by
  cases modulo with
  | temperatureSensors => exact ⟨_, rfl, alcanza_lectura enTemperatura⟩
  | digitalInputSensors => exact ⟨_, rfl, alcanza_lectura enDigitalInput⟩
  | liquidoSensors => exact ⟨_, rfl, alcanza_tanque⟩
  | analogicoSensors => exact ⟨_, rfl, alcanza_analogico⟩
  | gpsSensors => exact ⟨_, rfl, alcanza_gps atof⟩
  | digitalOutputSensors => exact ⟨_, rfl, alcanza_lectura enInterruptor⟩
  | ventiladorSensors => exact ⟨_, rfl, alcanza_lectura enVentilador⟩
  | inclinacionSensors => exact ⟨_, rfl, alcanza_inclinacion⟩
  | _ => exact absurd conLazo (by decide)

/-- There are no other loops. -/
theorem conLazo_of_turnoDe {atof : Str → UInt32} {module : UInt8}
    (chosen : turnoDe atof module = some turno)
    : ∃ modulo ∈ ModulosApp.conLazo, module = modulo.num := by
  by_contra none'
  have ne (modulo : ModulosApp) (member : modulo ∈ ModulosApp.conLazo) : module ≠ modulo.num :=
    fun same => none' ⟨modulo, member, same⟩
  simp only [ModulosApp.conLazo, List.forall_mem_cons, List.not_mem_nil, false_imp_iff,
    implies_true, and_true] at ne
  simp [turnoDe, ne] at chosen

-----------------------------------------------------------------------------------------
-- Main result
-----------------------------------------------------------------------------------------

/-- What should hold of the loop that a frame selects: it comes to an end, after one turn for each
port, and its turns have read each field of the frame once.
-/
def Acaba (atof : Str → UInt32) (trama : Trama) (ram : SerialRam) : Prop :=
  ∀ turno, turnoDe atof trama.module = some turno
    → ∃ leidos last,
        Vueltas turno trama.portMax trama.portMin 0 trama.llamada.sensorData leidos ram last
        ∧ leidos.length = trama.portMax.toNat - trama.portMin.toNat + 1
        ∧ leidos = trama.campos

/-- The module has no loop, or the last port is below 255, the ports are no more than the cells of
the module, and every field is there and has the parts that the module uses.
-/
def Cabal (trama : Trama) : Prop :=
  ∀ modulo ∈ ModulosApp.conLazo,
    trama.module = modulo.num
    → trama.portMax ≠ 255
      ∧ trama.campos.length ≤ modulo.huecos
      ∧ ∀ campo ∈ trama.campos, campo ≠ [] ∧ ConPartes modulo.partes campo

instance (trama : Trama) : Decidable (Cabal trama) := inferInstanceAs (Decidable (∀ _ ∈ _, _))

/-- Turns that come to their end have read every field, none of them empty. -/
theorem leidos_campos {data : List Char} {trama : Trama} (leida : separar data = .ok (some trama))
    {leidos : List Str} {s last : SerialRam}
    (vueltas : Vueltas turno trama.portMax trama.portMin 0 trama.llamada.sensorData leidos s last)
    : leidos = trama.campos ∧ trama.llamada.sensorData = trama.campos
      ∧ ∀ campo ∈ trama.campos, campo ≠ [] := by
  obtain ⟨-, ports⟩ := separar_acepta leida
  have tokens : trama.llamada.sensorData = fields [','] trama.sensorData := splitSensors_fst _ _
  have some' := trama.campos_pos
  have counted := vueltas.length_leidos (by omega)
  have within := vueltas.leidos_prefix.length_le
  have many : trama.campos.length ≤ (fields [','] trama.sensorData).length := by
    rw [← tokens]
    omega
  have whole : fields [','] trama.sensorData = trama.campos := fields_eq_splitOn many
  have all : leidos = trama.llamada.sensorData :=
    vueltas.leidos_prefix.eq_of_length (by rw [tokens, whole]; omega)
  exact ⟨all.trans (tokens.trans whole), tokens.trans whole,
    fun campo member => fields_eq_splitOn_iff.mp whole campo member⟩

/-- For every frame that is accepted the loop that it selects comes to its end after one turn for
each port, each field read once, exactly if the last port is below 255, the module has a cell for
each port, and every field is there and complete. Witness: the turns over the fields.
-/
theorem allocateData_acaba_iff {data : List Char} {trama : Trama}
    (leida : separar data = .ok (some trama)) (atof : Str → UInt32) (ram : SerialRam)
    : Acaba atof trama ram ↔ Cabal trama := by
  obtain ⟨-, ports⟩ := separar_acepta leida
  have tokens : trama.llamada.sensorData = fields [','] trama.sensorData := splitSensors_fst _ _
  have bound := trama.portMax.toNat_lt
  have zero : (0 : UInt8).toNat = 0 := rfl
  have some' := trama.campos_pos
  constructor
  · intro acaba modulo conLazo propio
    obtain ⟨turno, chosen, alcanza⟩ := turnoDe_conLazo conLazo atof
    obtain ⟨leidos, last, vueltas, -, rfl⟩ := acaba turno (propio ▸ chosen)
    obtain ⟨parts, cells⟩ := vueltas.alcanzan alcanza (by omega)
    have fits := cells (trama.campos.length - 1) (by omega)
    obtain ⟨-, -, nonempty⟩ := leidos_campos leida vueltas
    exact ⟨vueltas.portMax_ne, by omega,
      fun campo member => ⟨nonempty campo member, parts campo member⟩⟩
  · intro cabal turno chosen
    obtain ⟨modulo, conLazo, propio⟩ := conLazo_of_turnoDe chosen
    obtain ⟨last, fits, campos⟩ := cabal modulo conLazo propio
    obtain ⟨otro, selected, alcanza⟩ := turnoDe_conLazo conLazo atof
    obtain rfl := Option.some.inj (chosen.symm.trans (propio ▸ selected))
    have whole : fields [','] trama.sensorData = trama.campos :=
      fields_eq_splitOn_iff.mpr fun campo member => (campos campo member).1
    obtain ⟨final, vueltas⟩ : ∃ final,
        Vueltas turno trama.portMax trama.portMin 0 (trama.campos ++ []) trama.campos ram final :=
      vueltas_of_alcanza alcanza last [] (fun campo member => (campos campo member).2)
        (fun k few => by omega) (by omega) ports
    rw [List.append_nil, ← whole, ← tokens] at vueltas
    exact ⟨_, final, vueltas, by rw [tokens, whole]; omega, tokens.trans whole⟩

/-- Two tanks with all their readings. -/
theorem allocateData_acaba_tanques
    : Acaba (fun _ => 0)
        ⟨5, 6, 6, "1:2:3:4:5,6:7:8:9:0".toList⟩ .inicial := by
  have leida : separar ("p5-6d1:2:3:4:5,6:7:8:9:0m6".toList ++ [nul])
      = .ok (some ⟨5, 6, 6, "1:2:3:4:5,6:7:8:9:0".toList⟩) := by
    decide
  exact (allocateData_acaba_iff leida (fun _ => 0) .inicial).mpr (by decide)

/-- A bound of 255 is never passed: the port wraps around. -/
theorem allocateData_no_acaba
    : ¬∀ (atof : Str → UInt32) (data : List Char) (trama : Trama) (ram : SerialRam),
        separar data = .ok (some trama) → Acaba atof trama ram := by
  intro claim
  have leida : separar ("p255-255d7m1".toList ++ [nul])
      = .ok (some ⟨255, 255, 1, ['7']⟩) := by
    decide
  obtain ⟨_, _, vueltas, -⟩ := claim (fun _ => 0) _ _ .inicial leida _ rfl
  exact vueltas.portMax_ne rfl

end EspHttpControl.Serial
