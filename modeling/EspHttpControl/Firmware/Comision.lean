import EspHttpControl.Firmware.Arranque
import EspHttpControl.Firmware.Paneles
import EspHttpControl.Firmware.Serie

/-! The commissioning of a card. The first boot erases the storage and fills it with the identity and
the initial values, a request under the initial token posts the ports and marks the card as
registered, and the boot behind a restart loads the ports and starts the tasks.
-/

namespace EspHttpControl.Firmware

open CText Nvs Machines Http

/-- The token that `valores_iniciales` stores. -/
def tokenInicial : Str := "dslfkjasdkhf732489032l;ksd".toList

/-- What a commissioning needs: an answer of the STM with a number of 16 characters, and a request
under the initial token with a port for every key.
-/
structure Comision (x : Externo) where
  data : List Char
  letras : ConLetras (cstr data)
  largo : (idDe (cstr data)).length = 16
  puerto : KeyValue → Nat
  rango : ∀ key, puerto key ≤ 253 ∨ puerto key = 255
  root : Json
  autentica : root.stringAt ["token"] = some tokenInicial
  puertos : ∀ fila ∈ filas, root.stringAt fila.path = some (Nat.toDigits 10 (puerto fila.key))
  datos : List Char
  resto : List Char
  esperas : Nat
  cola : List Recepcion
  ne : datos ≠ []
  documento : x.parse (cstr (datos ++ resto)) = some root

namespace Comision

variable {x : Externo} (c : Comision x)

def eventos (respuesta : Option (List Char)) : List Evento :=
  [.appMain (some c.data) ⟨true, true⟩,
    .peticion (.enUnaPieza .setports c.esperas c.datos c.resto c.cola), .reinicio,
    .appMain respuesta ⟨true, true⟩]

/-- The entries of the identity. -/
def escrituras (mac : Vector UInt8 6) : List Escritura :=
  entradas x (serialDe mac (idDe (cstr c.data)))

/-- The storage behind the first boot. -/
def almacen (mac : Vector UInt8 6) : Almacen :=
  Registers.Store.empty.writeAll (c.escrituras mac ++ entradasIniciales)

/-- The keys that come into service. -/
def llaves : List KeyValue :=
  KeyValue.all.filter fun key => c.puerto key ≠ 255 ∧ key ∉ .toldoSuperior :: desviadas

/-- A card in service: its server runs under the initial token, its tasks show the keys that were
posted with a port, each at that port, but for those that the loader does not find, and its storage
holds the identity and the initial values.
-/
structure EnServicio (mac : Vector UInt8 6) (e : Esp32) : Prop where
  tareas : e.tareas = true
  servidor : e.web.EnMarcha
  token : e.web.dev.tokenHttser = some tokenInicial
  llaves : e.txTask.keysWithPorts = c.llaves
  puertos : ∀ key ∈ c.llaves, (preReadxNvs e.nvs key).toNat = c.puerto key
  entradas : ∀ entrada ∈ c.escrituras mac ++ entradasIniciales,
    e.nvs.get entrada.1 = some entrada.2

-----------------------------------------------------------------------------------------
-- The storage
-----------------------------------------------------------------------------------------

theorem entradas_wellFormed (mac : Vector UInt8 6)
    : ((c.escrituras mac ++ entradasIniciales).map Prod.fst).Nodup
      ∧ ∀ registro ∈ (c.escrituras mac ++ entradasIniciales).map Prod.fst,
        Admite registro ∧ registro ∉ filas.map Fila.registro ∧ registro ≠ "7_STATUS-MATR"
        ∧ ∀ key ∈ desviadas, registro ≠ key.registro := by
  have nombres : (c.escrituras mac ++ entradasIniciales).map Prod.fst
      = ["7_SERIAL_ID", "7_USER_ID", "7_AHSN_BASE64"] ++ entradasIniciales.map Prod.fst :=
    rfl
  rw [nombres]
  decide +kernel

/-- `SETPORTS` leaves every other entry. -/
theorem get_trasSetports {registro : String} (port : registro ∉ filas.map Fila.registro)
    (status : registro ≠ "7_STATUS-MATR") (nvs : Almacen) (puerto : KeyValue → Nat)
    : (trasSetports nvs puerto).get registro = nvs.get registro := by
  rw [trasSetports, Registers.Store.get_write_of_ne _ _ status]
  refine Registers.Store.get_writeAll_of_not_mem ?_ nvs
  rw [List.map_map]
  exact port

/-- What the first boot has stored is there behind the request. -/
theorem get_almacen (mac : Vector UInt8 6)
    : ∀ entrada ∈ c.escrituras mac ++ entradasIniciales,
        (trasSetports (c.almacen mac) c.puerto).get entrada.1 = some entrada.2 := by
  intro entrada member
  obtain ⟨distintas, known⟩ := c.entradas_wellFormed mac
  obtain ⟨admite, port, status, -⟩ := known entrada.1 (List.mem_map_of_mem member)
  rw [get_trasSetports port status]
  exact Registers.Store.get_writeAll_of_mem distintas member admite _

/-- The key is loaded exactly if it comes into service. -/
theorem registrada_iff (mac : Vector UInt8 6) (key : KeyValue)
    : Registrada (trasSetports (c.almacen mac) c.puerto) key
      ↔ c.puerto key ≠ 255 ∧ key ∉ .toldoSuperior :: desviadas := by
  rw [List.mem_cons, not_or]
  by_cases largo : key = .toldoSuperior
  · subst largo
    refine ⟨fun present => ?_, fun holds => absurd rfl holds.2.1⟩
    exact absurd (by rw [preReadxNvs_toldoSuperior]; rfl) present.1
  · by_cases desviada : key ∈ desviadas
    · refine ⟨fun present => ?_, fun holds => absurd desviada holds.2.2⟩
      rw [Registrada, preReadxNvs_desviada desviada] at present
      have missing : (c.almacen mac).get key.registro = none := by
        refine Registers.Store.get_writeAll_of_not_mem (fun member => ?_) _
        exact ((c.entradas_wellFormed mac).2 _ member).2.2.2 key desviada rfl
      exact absurd missing (registrada_ne_none present)
    · have read : LeeComo (trasSetports (c.almacen mac) c.puerto) key (c.puerto key) :=
        leeComo_fila (c.rango key) desviada largo
      obtain ⟨ninguno, alguno⟩ := read
      refine ⟨fun present => ⟨fun none' => ninguno none' present, largo, desviada⟩, fun holds => ?_⟩
      exact registrada_of_puerto ((c.rango key).resolve_right holds.1) (alguno holds.1)

/-- What is posted is what is loaded. -/
theorem llaves_cargadas (mac : Vector UInt8 6)
    : (loadKeysWithPortAssignedToRAM (trasSetports (c.almacen mac) c.puerto)).keysWithPorts
        = c.llaves
      ∧ ∀ key ∈ c.llaves,
        (preReadxNvs (trasSetports (c.almacen mac) c.puerto) key).toNat = c.puerto key := by
  refine ⟨?_, fun key member => ?_⟩
  · rw [loadKeys_eq_filter, llaves]
    exact List.filter_congr fun key _ => decide_eq_decide.mpr (c.registrada_iff mac key)
  · obtain ⟨some', rest⟩ := of_decide_eq_true (List.mem_filter.mp member).2
    rw [List.mem_cons, not_or] at rest
    exact (leeComo_fila (c.rango key) rest.2 rest.1).2 some'

-----------------------------------------------------------------------------------------
-- The three steps
-----------------------------------------------------------------------------------------

/-- The second card is the first one with a server that has just been started. -/
structure Servida (e e' : Esp32) : Prop where
  servidor : e'.web.EnMarcha
  token : e'.web.dev.tokenHttser = e.web.dev.leerNvs tokHttpser
  nvs : e'.nvs = e.nvs
  txTask : e'.txTask = e.txTask
  tareas : e'.tareas = e.tareas

/-- The first call of `start_webserver`, when everything is there that it needs. -/
theorem servida_suceso {e : Esp32} (libre : e.web.serverData = false)
    (primera : e.web.appMain = false)
    : Servida e (e.suceso (.appMain ⟨true, true⟩)) := by
  constructor <;>
    simp [Esp32.suceso, Webserver.paso, Webserver.startWebserver, libre, primera,
      Webserver.EnMarcha, Esp32.nvs, tokHttpser]

/-- The boot of a card that is not registered. -/
theorem primer_arranque {e : Esp32} (nueva : e.nvs.get "7_STATUS-MATR" ≠ some ['1'])
    (libre : e.web.serverData = false) (primera : e.web.appMain = false)
    : (e.appMain x (some c.data) ⟨true, true⟩).web.EnMarcha
      ∧ (e.appMain x (some c.data) ⟨true, true⟩).web.dev.tokenHttser = some tokenInicial
      ∧ (e.appMain x (some c.data) ⟨true, true⟩).nvs = c.almacen e.web.dev.mac := by
  have loads : alArrancar ({ e with arrancado := true } : Esp32).nvs = none :=
    not_not.mp fun some' => nueva (alArrancar_ne_none.mp some')
  have found : idDe (cstr c.data) ≠ [] := fun none' => by
    have large := c.largo
    rw [none'] at large
    cases large
  have asked : requestAndStoreAhsn x e.web.dev.mac (some c.data) .empty
      = (Registers.Store.empty.writeAll (c.escrituras e.web.dev.mac), .ok) := by
    rw [requestAndStoreAhsn_data, if_neg (not_not.mpr c.letras), if_neg found,
      if_neg (not_not.mpr c.largo), escrituras]
  have filled : valoresIniciales (Registers.Store.empty.writeAll (c.escrituras e.web.dev.mac))
      = c.almacen e.web.dev.mac := by
    rw [valoresIniciales, almacen, Registers.Store.writeAll_append]
  rw [Esp32.appMain]
  dsimp only
  rw [loads]
  dsimp only
  rw [asked]
  dsimp only
  rw [filled]
  have servida := servida_suceso
    (e := ({ e with arrancado := true } : Esp32).conNvs (c.almacen e.web.dev.mac)) libre primera
  refine ⟨servida.servidor, servida.token.trans ?_, servida.nvs⟩
  obtain ⟨distintas, known⟩ := c.entradas_wellFormed e.web.dev.mac
  have member : (tokHttpser, tokenInicial) ∈ c.escrituras e.web.dev.mac ++ entradasIniciales :=
    List.mem_append_right _ (by decide)
  have held : (c.almacen e.web.dev.mac).get tokHttpser = some tokenInicial :=
    Registers.Store.get_writeAll_of_mem distintas member
      (known tokHttpser (List.mem_map_of_mem member)).1 _
  exact held

/-- The request that posts the ports. -/
theorem pide_puertos {e : Esp32} (servidor : e.web.EnMarcha)
    (token : e.web.dev.tokenHttser = some tokenInicial)
    : (e.atiende x (.enUnaPieza .setports c.esperas c.datos c.resto c.cola)).nvs
      = trasSetports e.nvs c.puerto := by
  obtain ⟨instancia, -, running⟩ := servidor
  have stored := setports_nvs c.esperas c.cola c.ne c.documento token c.autentica c.puertos
  rw [Esp32.nvs, Esp32.web_atiende, Webserver.atiende, if_neg (List.ne_nil_of_mem running)]
  dsimp only
  split
  · exact stored
  · exact stored
  · exact stored

/-- The boot behind the request. -/
theorem segundo_arranque {e : Esp32} {mac : Vector UInt8 6}
    (nvs : e.nvs = trasSetports (c.almacen mac) c.puerto) (libre : e.web.serverData = false)
    (primera : e.web.appMain = false) (respuesta : Option (List Char))
    : c.EnServicio mac (e.appMain x respuesta ⟨true, true⟩) := by
  have loads : alArrancar ({ e with arrancado := true } : Esp32).nvs
      = some (loadKeysWithPortAssignedToRAM e.nvs) :=
    if_pos (nvs ▸ status_trasSetports _ _)
  rw [Esp32.appMain]
  dsimp only
  rw [loads]
  dsimp only
  have servida := servida_suceso (e := { e with
    arrancado := true
    txTask := Serial.TxTask.inicial (loadKeysWithPortAssignedToRAM e.nvs).keysWithPorts
    tareas := true }) libre primera
  obtain ⟨keys, ports⟩ := c.llaves_cargadas mac
  have held := c.get_almacen mac
  rw [← nvs] at keys ports held
  refine ⟨servida.tareas, servida.servidor, servida.token.trans ?_,
    (congrArg Serial.TxTask.keysWithPorts servida.txTask).trans keys, ?_, ?_⟩
  · exact held (tokHttpser, tokenInicial) (List.mem_append_right _ (by decide))
  · rw [servida.nvs]
    exact ports
  · rw [servida.nvs]
    exact held

end Comision

/-- A card that is not registered comes into service: whatever it held before, its first boot with a
valid answer of the STM, a request that posts the ports, and the boot behind a restart leave it
running on what was posted; and whatever happens then, as long as its tasks run, its web frame is a
lone bar or has one segment for each of these keys. Witness: the three steps one behind the other,
and `sostiene_run`.
-/
theorem puesta_en_marcha {x : Externo} (c : Comision x) {dev : Device}
    (nueva : dev.nvs.get "7_STATUS-MATR" ≠ some ['1']) (respuesta : Option (List Char))
    : ∃ e, (firmware x).run (Esp32.arranque dev) (c.eventos respuesta) = some e
      ∧ c.EnServicio dev.mac e
      ∧ ∀ mas e',
        (firmware x).Along (fun e _ => e.tareas = true) e mas
        → (firmware x).run e mas = some e'
        → e'.tareas = true
        → ∃ texto nvs, (servir x.parse e'.web.dev .webbuffer).enviados
            = [.documento (tramaEndp "WEBBUFFER" "DATA" texto)]
          ∧ Muestra c.llaves texto nvs := by
  have first := c.primer_arranque (e := Esp32.arranque dev) nueva rfl rfl
  have second := c.pide_puertos first.1 first.2.1
  rw [first.2.2] at second
  let pedida := ((Esp32.arranque dev).appMain x (some c.data) ⟨true, true⟩).atiende x
    (.enUnaPieza .setports c.esperas c.datos c.resto c.cola)
  have third : pedida.reinicio.nvs = trasSetports (c.almacen dev.mac) c.puerto := second
  have servicio := c.segundo_arranque third rfl rfl respuesta
  refine ⟨_, rfl, servicio, fun mas e' corriendo reached on => ?_⟩
  have alineada := (Alineada.reinicio pedida).appMain (x := x) rfl respuesta ⟨true, true⟩
  have sostiene : Sostiene c.llaves (pedida.reinicio.appMain x respuesta ⟨true, true⟩) :=
    ⟨_, alineada, fun _ => alineada.llaves.symm.trans servicio.llaves⟩
  obtain ⟨f, last, same⟩ := sostiene_run sostiene corriendo reached
  exact ⟨_, f.vuelta, rfl, same on ▸ last.frame⟩

/-- A port for the temperature of the transmission. -/
def puertoTransmision : KeyValue → Nat := soloPuerto .temptrans 21

theorem parse_textoTransmision
    : sinCifrar.parse (cstr (textoSetports tokenInicial puertoTransmision ++ [nul]))
      = some (peticionSetports tokenInicial puertoTransmision) := by
  have plain : JsonText.Plain tokenInicial := by decide +kernel
  have same : sinCifrar.parse = JsonText.parse atoi := rfl
  rw [same]
  exact (readAs_textoSetports plain puertoTransmision).parse_cstr []

/-- The answer of an STM, and the request that posts the port under the initial token. -/
def comisionTransmision : Comision sinCifrar where
  data := "p1-2d3630343733a55148m3".toList ++ [nul]
  letras := by decide
  largo := by decide
  puerto := puertoTransmision
  rango := soloPuerto_rango _ (by decide)
  root := peticionSetports tokenInicial puertoTransmision
  autentica := rfl
  puertos := peticionSetports_puertos tokenInicial puertoTransmision
  datos := textoSetports tokenInicial puertoTransmision
  resto := [nul]
  esperas := 0
  cola := []
  ne := List.cons_ne_nil _ _
  documento := parse_textoTransmision

/-- Witness: a new card comes into service with the key that was posted. -/
theorem puesta_en_marcha_transmision
    : ∃ e, (firmware sinCifrar).run (Esp32.arranque .nueva) (comisionTransmision.eventos none)
          = some e
      ∧ e.tareas = true
      ∧ e.txTask.keysWithPorts = [.temptrans]
      ∧ (preReadxNvs e.nvs .temptrans).toNat = 21 := by
  have nueva : Device.nueva.nvs.get "7_STATUS-MATR" ≠ some ['1'] := by
    decide
  obtain ⟨e, reached, servicio, -⟩ := puesta_en_marcha comisionTransmision nueva none
  have llaves : comisionTransmision.llaves = [.temptrans] := by
    decide +kernel
  have port := servicio.puertos .temptrans (llaves ▸ List.mem_singleton_self _)
  exact ⟨e, reached, servicio.tareas, servicio.llaves.trans llaves, port⟩

end EspHttpControl.Firmware
