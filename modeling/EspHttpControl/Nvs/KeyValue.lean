import EspHttpControl.CText.Decimal

/-! The sensor keys of the card and the table of their storage names.
The firmware numbers its keys from 1 and looks their names up by that number.
-/

namespace EspHttpControl.Nvs

open CText

/-- `keyValue`, in the order of the enumeration. -/
inductive KeyValue
  | presacei | temptrans | tempturbo | tempescap | temprefri | tempace | prescom
  | ventiladorA | ventiladorB | ventiladorC | ventiladorATemp | ventiladorARpm
  | ventiladorBTemp | ventiladorBRpm | ventiladorCTemp | ventiladorCRpm | climatizacion
  | nevera | tempambint | tempambext | resheladagua | interruptorClimatizador
  | interruptorVentilacion | interruptorNevera | bateriaAVol | bateriaACur | bateriaBVol
  | bateriaBCur | bateriaCVol | bateriaCCur | freshwater | blackwater | greywater
  | oilother | ballast | sludge | bilge | seawater | tempTransm | marchaTransm
  | todoTransmDiferencial | frontalTransmDiferencial | centralTransmDiferencial
  | traseroTransmDiferencial | desbloqueadoTransmDiferencial | fgdTransmTraccion
  | rgdTransmTraccion | agdTransmTraccion | wincheA | wincheB | wincheC | wincheAEstirar
  | wincheARecoger | wincheBEstirar | wincheBRecoger | wincheCEstirar | wincheCRecoger
  | finalWincheAEstirar | finalWincheARecoger | finalWincheBEstirar | finalWincheBRecoger
  | finalWincheCEstirar | finalWincheCRecoger | niebla | compresor | toldoSuperior
  | toldoLateral | maletero | temporizador1 | temporizador2 | temporizador3 | temporizador4
  | temporizador5 | temporizador6 | temporizador7 | temporizador8 | temporizador9
  | temporizador10 | tempambDisp | tempcabinDisp | girosDisp | presionDisp | gasolinaDisp
  | torqueDisp | potenDisp | rpmDisp | velocidadDisp | inclinacionDispRollPitchYaw
  | msnmDisp | shiftDisp | presdelan | prestras | rigdelan | rigtras | rigtodo | altdelan
  | alttras | alttodo | ribdelan | ribtras | ribtodo | neuma1 | neuma2 | neuma3 | neuma4
  | neuma5 | neuma6 | neuma7 | neuma8 | neuma9 | neuma10 | neuma11 | neuma12 | neuma13
  | neuma14 | neuma15 | neuma16 | compresorNeuma | gnssGga | gnssVel | gnssDist
  | alarmaBotonPanico | sysgo1 | sysgo2 | sysgo3 | sysgo4 | sysgo5 | bateriaInterna1
  | inputDigital1 | acelerador1 | acelerador2 | acelerador3 | acelerador4
deriving DecidableEq, Repr

namespace KeyValue

/-- `AMOUNT_OF_ENUMS_IN_KEYVALUE`, one more than the number of the last key. -/
def amountOfEnumsInKeyValue : Nat := 134

/-- The enumerator's number as the firmware stores it. -/
def num (key : KeyValue) : UInt8 := UInt8.ofNat (key.ctorIdx + 1)

/-- The keys in the order of their numbers, from 1 up. -/
def all : List KeyValue :=
  (List.range (amountOfEnumsInKeyValue - 1)).map KeyValue.ofNat

theorem ctorIdx_lt (key : KeyValue) : key.ctorIdx < amountOfEnumsInKeyValue - 1 := by
  cases key <;> decide

theorem mem_all (key : KeyValue) : key ∈ all :=
  List.mem_map.mpr ⟨key.ctorIdx, List.mem_range.mpr key.ctorIdx_lt, KeyValue.ofNat_ctorIdx key⟩

theorem ctorIdx_injective : Function.Injective KeyValue.ctorIdx := by
  intro left right same
  rw [← KeyValue.ofNat_ctorIdx left, same, KeyValue.ofNat_ctorIdx]

/-- The number is the position counted from 1; it fits its byte. -/
theorem num_toNat (key : KeyValue) : key.num.toNat = key.ctorIdx + 1 := by
  have bound : key.ctorIdx < 133 := key.ctorIdx_lt
  rw [num, UInt8.toNat_ofNat_of_lt']
  simp only [UInt8.size]
  omega

end KeyValue

/-- `llaves_tarjeta`, the storage names in the order of the enumeration. -/
def llavesTarjeta : List String := [
  "1_PRESACEI", "1_TEMPTRANS", "1_TEMPTURBO", "1_TEMPESCAP", "1_TEMPREFRI", "1_TEMPACE",
  "1_PRESCOM", "1_VENTILADOR_A", "1_VENTILADOR_B", "1_VENTILADOR_C", "1_VENTILADO_A_T",
  "1_VENTILADO_A_R", "1_VENTILADO_B_T", "1_VENTILADO_B_R", "1_VENTILADO_C_T",
  "1_VENTILADO_C_R", "1_CLIMATIZACIO", "1_NEVERA", "1_TEMPAMBINT", "1_TEMPAMBEXT",
  "1_RESHELADAGUA", "1_INTERRUPTOR_C", "1_INTERRUPTOR_V", "1_INTERRUPTOR_N",
  "1_BATERIA_A_VO", "1_BATERIA_A_CU", "1_BATERIA_B_VO", "1_BATERIA_B_CU", "1_BATERIA_C_VO",
  "1_BATERIA_C_CU", "1_FRESHWATER", "1_BLACKWATER", "1_GREYWATER", "1_OILOTHER",
  "1_BALLAST", "1_SLUDGE", "1_BILGE", "1_SEAWATER", "1_TEMP_TRANSM", "1_MARCHA_TRANSM",
  "1_TODO_TRANSM", "1_FRONTAL_TRA", "1_CENTRAL_TRANS", "1_TRASERO_TRANS",
  "1_DESBLOQUEADO_", "1_FGD_TRANSM", "1_RGD_TRANSM", "1_AGD_TRANSM", "1_WINCHE_A",
  "1_WINCHE_B", "1_WINCHE_C", "1_WINCHE_A_ES", "1_WINCHE_A_RE", "1_WINCHE_B_ES",
  "1_WINCHE_B_RE", "1_WINCHE_C_ES", "1_WINCHE_C_RE", "1_FIN_WINC_A_ES", "1_FIN_WINC_A_RE",
  "1_FIN_WINC_B_ES", "1_FIN_WINC_B_RE", "1_FIN_WINC_C_ES", "1_FIN_WINC_C_RE", "1_NIEBLA",
  "1_COMPRESOR", "1_TOLDO_SUPERIOR", "1_TOLDO_LATERAL", "1_MALETERO", "1_TEMPORIZADOR1",
  "1_TEMPORIZADOR2", "1_TEMPORIZADOR3", "1_TEMPORIZADOR4", "1_TEMPORIZADOR5",
  "1_TEMPORIZADOR6", "1_TEMPORIZADOR7", "1_TEMPORIZADOR8", "1_TEMPORIZADOR9",
  "1_TEMPORIZADO10", "1_TEMPAMB_DISP", "1_TEMPCABIN_DIS", "1_GIROS_DISP", "1_PRESION_DISP",
  "1_GASOLINA_DISP", "1_TORQUE_DISP", "1_POTEN_DISP", "1_RPM_DISP", "1_VELOCIDAD_DIS",
  "1_INCLINACION_D", "1_MSNM_DISP", "1_SHIFT_DISP", "1_PRESDELAN", "1_PRESTRAS",
  "1_RIGDELAN", "1_RIGTRAS", "1_RIGTODO", "1_ALTDELAN", "1_ALTTRAS", "1_ALTTODO",
  "1_RIBDELAN", "1_RIBTRAS", "1_RIBTODO", "1_NEUMA_1", "1_NEUMA_2", "1_NEUMA_3",
  "1_NEUMA_4", "1_NEUMA_5", "1_NEUMA_6", "1_NEUMA_7", "1_NEUMA_8", "1_NEUMA_9",
  "1_NEUMA_10", "1_NEUMA_11", "1_NEUMA_12", "1_NEUMA_13", "1_NEUMA_14", "1_NEUMA_15",
  "1_NEUMA_16", "1_COMPRESOR_NE", "1_GNSS_GGA", "1_GNSS_VEL", "1_GNSS_DIST",
  "1_ALARMA_BOTON", "1_SYSGO_1", "1_SYSGO_2", "1_SYSGO_3", "1_SYSGO_4", "1_SYSGO_5",
  "1_BATERIA_INT1", "1_INPUT_DIG1", "1_ACELERADOR_1", "1_ACELERADOR_2", "1_ACELERADOR_3",
  "1_ACELERADOR_4"
]

/-- `llaves_tarjeta[num - 1]`, the storage name of a key. -/
def KeyValue.registro (key : KeyValue) : String :=
  llavesTarjeta.getD (key.num.toNat - 1) ""

set_option maxRecDepth 4000 in
/-- The table has a name for each key and no name twice. -/
theorem llavesTarjeta_wellFormed
    : llavesTarjeta.length = KeyValue.amountOfEnumsInKeyValue - 1
      ∧ llavesTarjeta.Nodup := by
  decide +kernel

/-- The name of a key is the table entry at its position. -/
theorem KeyValue.registro_eq (key : KeyValue)
    : llavesTarjeta[key.ctorIdx]? = some key.registro := by
  have bound : key.ctorIdx < llavesTarjeta.length := by
    simpa only [llavesTarjeta_wellFormed.1] using key.ctorIdx_lt
  rw [registro, num_toNat, Nat.add_sub_cancel, List.getD_eq_getElem?_getD,
    List.getElem?_eq_getElem bound, Option.getD_some]

/-- Distinct keys have distinct names, since the table repeats none. -/
theorem KeyValue.registro_injective : Function.Injective KeyValue.registro := by
  intro left right same
  have leftAt := left.registro_eq
  rw [same, ← right.registro_eq] at leftAt
  have bound : left.ctorIdx < llavesTarjeta.length := by
    simpa only [llavesTarjeta_wellFormed.1] using left.ctorIdx_lt
  exact ctorIdx_injective ((List.getElem?_inj bound llavesTarjeta_wellFormed.2).mp leftAt)

end EspHttpControl.Nvs
