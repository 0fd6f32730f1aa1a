import EspHttpControl.Machines.Runs
import EspHttpControl.Serial.RxQueue
import EspHttpControl.Serial.TxTask
import EspHttpControl.Serial.GpsPrevio
import EspHttpControl.Serial.Longitudes
import EspHttpControl.Serial.Archivo
import EspHttpControl.Serial.Posiciones
import EspHttpControl.Http.Ajustes
import EspHttpControl.Http.Incompleto
import EspHttpControl.Http.Setports
import EspHttpControl.Http.Cortes
import EspHttpControl.Http.Token
import EspHttpControl.Client.Login
import EspHttpControl.Client.Contenidos
import EspHttpControl.Flash.Acuses
import EspHttpControl.Flash.Sumas
import EspHttpControl.Firmware.Serie
import EspHttpControl.Firmware.Carga
import EspHttpControl.Nvs.Tabla
import EspHttpControl.Serial.Separacion
import EspHttpControl.Client.Bitacora
import EspHttpControl.Http.Mac
import EspHttpControl.Client.Tareas
import EspHttpControl.Flash.Pines
import EspHttpControl.Flash.Exito
import EspHttpControl.Http.Ficheros
import EspHttpControl.Http.Informes
import EspHttpControl.Firmware.Credencial
import EspHttpControl.Firmware.Paneles
import EspHttpControl.Firmware.Comision
import EspHttpControl.Firmware.Caidas
import EspHttpControl.Firmware.Olvido
import EspHttpControl.Firmware.Presentacion
