import EspHttpControl.Nvs.Claves

/-! The table of the port settings: which member of the request carries the port of a key, and
under which name the handlers store it.
-/

namespace EspHttpControl.Http

open Nvs

/-- One port of a `SETPORTS` request: the key that its member is named after, the group and
the member in the document, and the name that `grabar_nvs` is given.
-/
structure Fila where
  key : KeyValue
  grupo : String
  miembro : String
  registro : String
deriving DecidableEq, Repr

/-- The ports in the order in which `setports_handler` reads and writes them. -/
def filas : List Fila := [
  ⟨.prescom, "PRESION", "PRESCOM", "1_PRESCOM"⟩,
  ⟨.presionDisp, "PRESION", "PRESION_DISP", "1_PRESION_DISP"⟩,
  ⟨.presdelan, "PRESION", "PRESDELAN", "1_PRESDELAN"⟩,
  ⟨.prestras, "PRESION", "PRESTRAS", "1_PRESTRAS"⟩,
  ⟨.presacei, "PRESION", "PRESACEI", "1_PRESACEI"⟩,
  ⟨.temptrans, "TEMPERATURA", "TEMPTRANS", "1_TEMPTRANS"⟩,
  ⟨.tempturbo, "TEMPERATURA", "TEMPTURBO", "1_TEMPTURBO"⟩,
  ⟨.tempescap, "TEMPERATURA", "TEMPESCAP", "1_TEMPESCAP"⟩,
  ⟨.temprefri, "TEMPERATURA", "TEMPREFRI", "1_TEMPREFRI"⟩,
  ⟨.tempace, "TEMPERATURA", "TEMPACE", "1_TEMPACE"⟩,
  ⟨.ventiladorATemp, "TEMPERATURA", "VENTILADOR_A_TEMP", "1_VADO_A_T"⟩,
  ⟨.ventiladorBTemp, "TEMPERATURA", "VENTILADOR_B_TEMP", "1_VDO_B_T"⟩,
  ⟨.ventiladorCTemp, "TEMPERATURA", "VENTILADOR_C_TEMP", "1_VEO_C_T"⟩,
  ⟨.climatizacion, "TEMPERATURA", "CLIMATIZACION", "1_CLCIO"⟩,
  ⟨.nevera, "TEMPERATURA", "NEVERA", "1_NEVERA"⟩,
  ⟨.tempambint, "TEMPERATURA", "TEMPAMBINT", "1_TEMPAMBINT"⟩,
  ⟨.tempambext, "TEMPERATURA", "TEMPAMBEXT", "1_TEMPAMBEXT"⟩,
  ⟨.resheladagua, "TEMPERATURA", "RESHELADAGUA", "1_RESHELADAGUA"⟩,
  ⟨.tempTransm, "TEMPERATURA", "TEMP_TRANSM", "1_TEMP_TRANSM"⟩,
  ⟨.tempambDisp, "TEMPERATURA", "TEMPAMB_DISP", "1_TEMPAMB_DISP"⟩,
  ⟨.tempcabinDisp, "TEMPERATURA", "TEMPCABIN_DISP", "1_TEMPCABIN_DIS"⟩,
  ⟨.ventiladorA, "INTERRUPTOR", "VENTILADOR_A", "1_VENTILADOR_A"⟩,
  ⟨.ventiladorB, "INTERRUPTOR", "VENTILADOR_B", "1_VENTILADOR_B"⟩,
  ⟨.ventiladorC, "INTERRUPTOR", "VENTILADOR_C", "1_VENTILADOR_C"⟩,
  ⟨.interruptorClimatizador, "INTERRUPTOR", "INTERRUPTOR_CLIMATIZADOR", "1_INTERRUPTOR_C"⟩,
  ⟨.interruptorVentilacion, "INTERRUPTOR", "INTERRUPTOR_VENTILACION", "1_INTERRUPTOR_V"⟩,
  ⟨.interruptorNevera, "INTERRUPTOR", "INTERRUPTOR_NEVERA", "1_INTERRUPTOR_N"⟩,
  ⟨.todoTransmDiferencial, "INTERRUPTOR", "TODO_TRANSM_DIFERENCIAL", "1_TODO_TRANSM"⟩,
  ⟨.frontalTransmDiferencial, "INTERRUPTOR", "FRONTAL_TRANSM_DIFERENCIAL", "1_FRONTAL_TRA"⟩,
  ⟨.centralTransmDiferencial, "INTERRUPTOR", "CENTRAL_TRANSM_DIFERENCIAL", "1_CENTRAL_TRANS"⟩,
  ⟨.traseroTransmDiferencial, "INTERRUPTOR", "TRASERO_TRANSM_DIFERENCIAL", "1_TRASERO_TRANS"⟩,
  ⟨.desbloqueadoTransmDiferencial, "INTERRUPTOR", "DESBLOQUEADO_TRANSM_DIFERENCIAL", "1_DESBLOQUEADO"⟩,
  ⟨.fgdTransmTraccion, "INTERRUPTOR", "FGD_TRANSM_TRACCION", "1_FGD_TRANSM"⟩,
  ⟨.rgdTransmTraccion, "INTERRUPTOR", "RGD_TRANSM_TRACCION", "1_RGD_TRANSM"⟩,
  ⟨.agdTransmTraccion, "INTERRUPTOR", "AGD_TRANSM_TRACCION", "1_AGD_TRANSM"⟩,
  ⟨.wincheAEstirar, "INTERRUPTOR", "WINCHE_A_ESTIRAR", "1_WINCHE_A_ES"⟩,
  ⟨.wincheARecoger, "INTERRUPTOR", "WINCHE_A_RECOGER", "1_WINCHE_A_RE"⟩,
  ⟨.wincheBEstirar, "INTERRUPTOR", "WINCHE_B_ESTIRAR", "1_WINCHE_B_ES"⟩,
  ⟨.wincheBRecoger, "INTERRUPTOR", "WINCHE_B_RECOGER", "1_WINCHE_B_RE"⟩,
  ⟨.wincheCEstirar, "INTERRUPTOR", "WINCHE_C_ESTIRAR", "1_WINCHE_C_ES"⟩,
  ⟨.wincheCRecoger, "INTERRUPTOR", "WINCHE_C_RECOGER", "1_WINCHE_C_RE"⟩,
  ⟨.finalWincheAEstirar, "INTERRUPTOR", "FINAL_WINCHE_A_ESTIRAR", "1_FIN_WINC_A_ES"⟩,
  ⟨.finalWincheARecoger, "INTERRUPTOR", "FINAL_WINCHE_A_RECOGER", "1_FIN_WINC_A_RE"⟩,
  ⟨.finalWincheBEstirar, "INTERRUPTOR", "FINAL_WINCHE_B_ESTIRAR", "1_FIN_WINC_B_ES"⟩,
  ⟨.finalWincheBRecoger, "INTERRUPTOR", "FINAL_WINCHE_B_RECOGER", "1_FIN_WINC_B_RE"⟩,
  ⟨.finalWincheCEstirar, "INTERRUPTOR", "FINAL_WINCHE_C_ESTIRAR", "1_FIN_WINC_C_ES"⟩,
  ⟨.finalWincheCRecoger, "INTERRUPTOR", "FINAL_WINCHE_C_RECOGER", "1_FIN_WINC_C_RE"⟩,
  ⟨.wincheA, "INTERRUPTOR", "WINCHE_A", "1_WINCHE_A"⟩,
  ⟨.wincheB, "INTERRUPTOR", "WINCHE_B", "1_WINCHE_B"⟩,
  ⟨.wincheC, "INTERRUPTOR", "WINCHE_C", "1_WINCHE_C"⟩,
  ⟨.niebla, "INTERRUPTOR", "NIEBLA", "1_NIEBLA"⟩,
  ⟨.compresor, "INTERRUPTOR", "COMPRESOR", "1_COMPRESOR"⟩,
  ⟨.toldoSuperior, "INTERRUPTOR", "TOLDO_SUPERIOR", "1_TOLDO_SUPERIOR"⟩,
  ⟨.toldoLateral, "INTERRUPTOR", "TOLDO_LATERAL", "1_TOLDO_LATERAL"⟩,
  ⟨.maletero, "INTERRUPTOR", "MALETERO", "1_MALETERO"⟩,
  ⟨.compresorNeuma, "INTERRUPTOR", "COMPRESOR_NEUMA", "1_COMPRESOR_NE"⟩,
  ⟨.bateriaAVol, "ANALOGICOS", "BATERIA_A_VOL", "1_BATERIA_A_VO"⟩,
  ⟨.bateriaACur, "ANALOGICOS", "BATERIA_A_CUR", "1_BATERIA_A_CU"⟩,
  ⟨.bateriaBVol, "ANALOGICOS", "BATERIA_B_VOL", "1_BATERIA_B_VO"⟩,
  ⟨.bateriaBCur, "ANALOGICOS", "BATERIA_B_CUR", "1_BATERIA_B_CU"⟩,
  ⟨.bateriaCVol, "ANALOGICOS", "BATERIA_C_VOL", "1_BATERIA_C_VO"⟩,
  ⟨.bateriaCCur, "ANALOGICOS", "BATERIA_C_CUR", "1_BATERIA_C_CU"⟩,
  ⟨.bateriaInterna1, "ANALOGICOS", "BATERIA_INTERNA_1", "1_BATERIA_INT1"⟩,
  ⟨.acelerador1, "ANALOGICOS", "ACELERADOR_1", "1_ACELERADOR_1"⟩,
  ⟨.acelerador2, "ANALOGICOS", "ACELERADOR_2", "1_ACELERADOR_2"⟩,
  ⟨.acelerador3, "ANALOGICOS", "ACELERADOR_3", "1_ACELERADOR_3"⟩,
  ⟨.acelerador4, "ANALOGICOS", "ACELERADOR_4", "1_ACELERADOR_4"⟩,
  ⟨.temporizador1, "TEMPORIZADOR", "TEMPORIZADOR_1", "1_TEMPORIZADOR1"⟩,
  ⟨.temporizador2, "TEMPORIZADOR", "TEMPORIZADOR_2", "1_TEMPORIZADOR2"⟩,
  ⟨.temporizador3, "TEMPORIZADOR", "TEMPORIZADOR_3", "1_TEMPORIZADOR3"⟩,
  ⟨.temporizador4, "TEMPORIZADOR", "TEMPORIZADOR_4", "1_TEMPORIZADOR4"⟩,
  ⟨.temporizador5, "TEMPORIZADOR", "TEMPORIZADOR_5", "1_TEMPORIZADOR5"⟩,
  ⟨.temporizador6, "TEMPORIZADOR", "TEMPORIZADOR_6", "1_TEMPORIZADOR6"⟩,
  ⟨.temporizador7, "TEMPORIZADOR", "TEMPORIZADOR_7", "1_TEMPORIZADOR7"⟩,
  ⟨.temporizador8, "TEMPORIZADOR", "TEMPORIZADOR_8", "1_TEMPORIZADOR8"⟩,
  ⟨.temporizador9, "TEMPORIZADOR", "TEMPORIZADOR_9", "1_TEMPORIZADOR9"⟩,
  ⟨.temporizador10, "TEMPORIZADOR", "TEMPORIZADOR_10", "1_TEMPORIZADO10"⟩,
  ⟨.freshwater, "TANQUES", "FRESHWATER", "1_FRESHWATER"⟩,
  ⟨.blackwater, "TANQUES", "BLACKWATER", "1_BLACKWATER"⟩,
  ⟨.greywater, "TANQUES", "GREYWATER", "1_GREYWATER"⟩,
  ⟨.oilother, "TANQUES", "OILOTHER", "1_OILOTHER"⟩,
  ⟨.ballast, "TANQUES", "BALLAST", "1_BALLAST"⟩,
  ⟨.sludge, "TANQUES", "SLUDGE", "1_SLUDGE"⟩,
  ⟨.bilge, "TANQUES", "BILGE", "1_BILGE"⟩,
  ⟨.seawater, "TANQUES", "SEAWATER", "1_SEAWATER"⟩,
  ⟨.gasolinaDisp, "TANQUES", "GASOLINA_DISP", "1_GASOLINA_DISP"⟩,
  ⟨.sysgo1, "SYSGO", "SYSGO_1", "1_SYSGO_1"⟩,
  ⟨.sysgo2, "SYSGO", "SYSGO_2", "1_SYSGO_2"⟩,
  ⟨.sysgo3, "SYSGO", "SYSGO_3", "1_SYSGO_3"⟩,
  ⟨.sysgo4, "SYSGO", "SYSGO_4", "1_SYSGO_4"⟩,
  ⟨.sysgo5, "SYSGO", "SYSGO_5", "1_SYSGO_5"⟩,
  ⟨.rigdelan, "SUSPENSIONES", "RIGDELAN", "1_RIGDELAN"⟩,
  ⟨.rigtras, "SUSPENSIONES", "RIGTRAS", "1_RIGTRAS"⟩,
  ⟨.rigtodo, "SUSPENSIONES", "RIGTODO", "1_RIGTODO"⟩,
  ⟨.altdelan, "SUSPENSIONES", "ALTDELAN", "1_ALTDELAN"⟩,
  ⟨.alttras, "SUSPENSIONES", "ALTTRAS", "1_ALTTRAS"⟩,
  ⟨.alttodo, "SUSPENSIONES", "ALTTODO", "1_ALTTODO"⟩,
  ⟨.ribdelan, "SUSPENSIONES", "RIBDELAN", "1_RIBDELAN"⟩,
  ⟨.ribtras, "SUSPENSIONES", "RIBTRAS", "1_RIBTRAS"⟩,
  ⟨.ribtodo, "SUSPENSIONES", "RIBTODO", "1_RIBTODO"⟩,
  ⟨.gnssGga, "GNSS", "GNSS_GGA", "1_GNSS_GGA"⟩,
  ⟨.gnssVel, "GNSS", "GNSS_VEL", "1_GNSS_VEL"⟩,
  ⟨.gnssDist, "GNSS", "GNSS_DIST", "1_GNSS_DIST"⟩,
  ⟨.ventiladorARpm, "RPMS", "VENTILADOR_A_RPM", "1_VENTILADO_A_R"⟩,
  ⟨.ventiladorBRpm, "RPMS", "VENTILADOR_B_RPM", "1_VENTILADO_B_R"⟩,
  ⟨.ventiladorCRpm, "RPMS", "VENTILADOR_C_RPM", "1_VENTILADO_C_R"⟩,
  ⟨.rpmDisp, "RPMS", "RPM_DISP", "1_RPM_DISP"⟩,
  ⟨.neuma1, "NEUMA", "NEUMA_1", "1_NEUMA_1"⟩,
  ⟨.neuma2, "NEUMA", "NEUMA_2", "1_NEUMA_2"⟩,
  ⟨.neuma3, "NEUMA", "NEUMA_3", "1_NEUMA_3"⟩,
  ⟨.neuma4, "NEUMA", "NEUMA_4", "1_NEUMA_4"⟩,
  ⟨.neuma5, "NEUMA", "NEUMA_5", "1_NEUMA_5"⟩,
  ⟨.neuma6, "NEUMA", "NEUMA_6", "1_NEUMA_6"⟩,
  ⟨.neuma7, "NEUMA", "NEUMA_7", "1_NEUMA_7"⟩,
  ⟨.neuma8, "NEUMA", "NEUMA_8", "1_NEUMA_8"⟩,
  ⟨.neuma9, "NEUMA", "NEUMA_9", "1_NEUMA_9"⟩,
  ⟨.neuma10, "NEUMA", "NEUMA_10", "1_NEUMA_10"⟩,
  ⟨.neuma11, "NEUMA", "NEUMA_11", "1_NEUMA_11"⟩,
  ⟨.neuma12, "NEUMA", "NEUMA_12", "1_NEUMA_12"⟩,
  ⟨.neuma13, "NEUMA", "NEUMA_13", "1_NEUMA_13"⟩,
  ⟨.neuma14, "NEUMA", "NEUMA_14", "1_NEUMA_14"⟩,
  ⟨.neuma15, "NEUMA", "NEUMA_15", "1_NEUMA_15"⟩,
  ⟨.neuma16, "NEUMA", "NEUMA_16", "1_NEUMA_16"⟩,
  ⟨.girosDisp, "INCLINACIONES", "GIROS_DISP", "1_GIROS_DISP"⟩,
  ⟨.inclinacionDispRollPitchYaw, "INCLINACIONES", "INCLINACION_D_R_P_Y", "1_INCLINACION_D"⟩,
  ⟨.alarmaBotonPanico, "INDIGITALES", "ALARMA_BOTON_PANICO", "1_ALARMA_BOTON"⟩,
  ⟨.inputDigital1, "INDIGITALES", "INPUT_DIGITAL_1", "1_INPUT_DIG1"⟩,
  ⟨.marchaTransm, "OTROS", "MARCHA_TRANSM", "1_MARCHA_TRANSM"⟩,
  ⟨.torqueDisp, "OTROS", "TORQUE_DISP", "1_TORQUE_DISP"⟩,
  ⟨.potenDisp, "OTROS", "POTEN_DISP", "1_POTEN_DISP"⟩,
  ⟨.velocidadDisp, "OTROS", "VELOCIDAD_DISP", "1_VELOCIDAD_DIS"⟩,
  ⟨.msnmDisp, "OTROS", "MSNM_DISP", "1_MSNM_DISP"⟩,
  ⟨.shiftDisp, "OTROS", "SHIFT_DISP", "1_SHIFT_DISP"⟩
]

def Fila.path (fila : Fila) : List String := [fila.grupo, fila.miembro]

/-- The keys whose ports `setports_handler` stores under other names than the loader reads. -/
def desviadas : List KeyValue :=
  [.ventiladorATemp, .ventiladorBTemp, .ventiladorCTemp, .climatizacion,
    .desbloqueadoTransmDiferencial]

set_option maxRecDepth 4000 in
/-- The table of the handler has a row for each key, and no name twice. -/
theorem filas_wellFormed
    : (∀ key ∈ KeyValue.all, key ∈ filas.map Fila.key) ∧ (filas.map Fila.registro).Nodup := by
  decide +kernel

theorem exists_fila (key : KeyValue) : ∃ fila ∈ filas, fila.key = key :=
  List.mem_map.mp (filas_wellFormed.1 key (KeyValue.mem_all key))

/-- Handler and loader use the same name for every other key. -/
theorem registro_fila
    : ∀ fila ∈ filas, fila.key ∉ desviadas → fila.registro = fila.key.registro := by
  decide +kernel

/-- The handler never writes the name under which a drifted key is read. -/
theorem registro_desviada
    : ∀ key ∈ desviadas, key.registro ∉ filas.map Fila.registro ++ ["7_STATUS-MATR"] := by
  decide +kernel

/-- The mark of a registered card is the name of no port. -/
theorem status_ajeno
    : "7_STATUS-MATR" ∉ filas.map Fila.registro
      ∧ ∀ key ∈ KeyValue.all, key.registro ≠ "7_STATUS-MATR" := by
  decide +kernel

end EspHttpControl.Http
