import EspHttpControl.Firmware.AppMain
import EspHttpControl.Http.Apagon

/-! The identity of a registered card.
Only the boot of a card that is not registered writes it, and the handlers either leave the mark
of a registered card or set it; the factory reset alone takes it away.
-/

namespace EspHttpControl.Firmware

open CText Nvs Machines Http

/-- The entries that `request_and_store_ahsn` writes. -/
def registrosIdentidad : List String := ["7_USER_ID", "7_AHSN_BASE64", "7_SERIAL_ID"]

/-- A turn of `defaultesp_handler` finds the token in force and the `RESET` of a reset. -/
def PideReset (x : Externo) (e : Esp32) : Peticion → Prop
  | .conToken .defaultesp contentLen recepciones =>
    ∃ turno ∈ defaultespHandler.turnos x.parse e.web.dev contentLen recepciones,
      ∃ root token, x.parse turno.2 = some root ∧ root.stringAt ["token"] = some token
        ∧ turno.1.tokenHttser = some token
        ∧ root.stringAt ["RESET"] = some "true".toList
  | _ => False

/-- The event is not an authenticated request for the factory reset. -/
def SinReset (x : Externo) (e : Esp32) : Evento → Prop
  | .peticion p => ¬PideReset x e p
  | .apagon p _ => ¬PideReset x e p
  | _ => True

/-- The write is not one of the identity, and it leaves the mark or sets it. -/
structure Respeta (escritura : Escritura) : Prop where
  ajena : escritura.1 ∉ registrosIdentidad
  status : escritura.1 = "7_STATUS-MATR" → escritura.2 = ['1']

theorem respeta_ajeno {registro : String} (otro : registro ∉ "7_STATUS-MATR" :: registrosIdentidad)
    (dato : Str)
    : Respeta (registro, dato) := by
  obtain ⟨status, ajeno⟩ := List.ne_and_not_mem_of_not_mem_cons otro
  exact ⟨ajeno, fun mark => absurd mark status⟩

/-- The card is registered, with the identity of another storage. -/
structure Permanece (origen nvs : Almacen) : Prop where
  status : nvs.get "7_STATUS-MATR" = some ['1']
  igual : ∀ registro ∈ registrosIdentidad, nvs.get registro = origen.get registro

theorem Permanece.writeAll {origen nvs : Almacen} {escrituras : List Escritura}
    (permanece : Permanece origen nvs) (respeta : ∀ escritura ∈ escrituras, Respeta escritura)
    : Permanece origen (nvs.writeAll escrituras) := by
  constructor
  · exact Registers.Store.get_writeAll_of_held permanece.status fun escritura member =>
      (respeta escritura member).status
  · intro registro known
    have absent : registro ∉ escrituras.map Prod.fst := by
      intro member
      obtain ⟨escritura, written, rfl⟩ := List.mem_map.mp member
      exact (respeta escritura written).ajena known
    rw [Registers.Store.get_writeAll_of_not_mem absent]
    exact permanece.igual registro known

theorem Permanece.write {origen nvs : Almacen} {registro : String} {dato : Str}
    (permanece : Permanece origen nvs) (respeta : Respeta (registro, dato))
    : Permanece origen (nvs.write registro dato) := by
  have all := permanece.writeAll (List.forall_mem_singleton.mpr respeta)
  rwa [Registers.Store.writeAll_cons] at all

-----------------------------------------------------------------------------------------
-- The writes of a request
-----------------------------------------------------------------------------------------

theorem escribe_identidad (E : ConToken) : ∀ registro ∈ registrosIdentidad, registro ∉ E.escribe := by
  cases E <;> decide +kernel

/-- Only `SETPORTS` and `DEFAULTESP` write the mark. -/
theorem escribe_status {E : ConToken} (setports : E ≠ .setports) (defaultesp : E ≠ .defaultesp)
    : "7_STATUS-MATR" ∉ E.escribe := by
  cases E with
  | setports => exact absurd rfl setports
  | defaultesp => exact absurd rfl defaultesp
  | _ => decide +kernel

/-- `setports_handler` sets the mark. -/
theorem setports_status {d : Device} {root : Json} {ordenes : List Orden} {escritura : Escritura}
    (asked : setportsHandler.pide d root = some ordenes)
    (member : escritura ∈ Orden.escrituras ordenes) (mark : escritura.1 = "7_STATUS-MATR")
    : escritura.2 = ['1'] := by
  obtain ⟨puertos, marca, same, front⟩ := setports_lote asked
  rw [same] at member
  rcases List.mem_append.mp member with port | last
  · exact absurd (mark ▸ List.mem_map_of_mem port) (status_no_es_puerto front)
  · cases marca with
    | false => exact absurd last List.not_mem_nil
    | true => exact congrArg Prod.snd (List.mem_singleton.mp last)

/-- `defaultesp_handler` writes nothing for any other document than that of a reset. -/
theorem defaultesp_escrituras {d : Device} {root : Json} {ordenes : List Orden}
    (asked : defaultespHandler.pide d root = some ordenes)
    : (∃ token, root.stringAt ["token"] = some token ∧ d.tokenHttser = some token
        ∧ root.stringAt ["RESET"] = some "true".toList)
      ∨ Orden.escrituras ordenes = [] := by
  rw [Manejador.pide] at asked
  split at asked
  · next token valores read =>
    obtain ⟨tokenRead, resetRead⟩ := List.cons.inj (leeMiembros_eq read)
    split at asked
    · cases asked
    · next login =>
      obtain ⟨message, first, rfl⟩ := Option.map_eq_some_iff.mp asked
      have reset : root.stringAt ["RESET"] = some message := by
        rw [resetRead] at first
        exact first
      split
      · next same =>
        left
        exact ⟨token, tokenRead.symm, loginCorrecto_eq_true.mp login, by rw [reset, same]⟩
      · exact Or.inr rfl
    · obtain rfl := Option.some.inj asked
      exact Or.inr rfl
  · cases asked

/-- The writes of a request leave the identity and the mark unless it asks for a reset, by the
endpoint.
-/
theorem peticion_respeta {x : Externo} {e : Esp32} {p : Peticion} (sin : ¬PideReset x e p)
    : ∀ escritura ∈ p.escrituras x.parse e.web.dev, Respeta escritura := by
  cases p with
  | conToken E contentLen recepciones =>
      apply Manejador.forall_turnos
      intro turno taken root ordenes parsed asked escritura member
      have named := pide_escribe asked escritura member
      refine ⟨fun known => escribe_identidad E _ known named, fun mark => ?_⟩
      by_cases setports : E = .setports
      · subst setports
        exact setports_status asked member mark
      · by_cases defaultesp : E = .defaultesp
        · subst defaultesp
          rcases defaultesp_escrituras asked with reset | none'
          · obtain ⟨token, named, vigente, reset⟩ := reset
            exact absurd ⟨turno, taken, root, token, parsed, named, vigente, reset⟩ sin
          · rw [none'] at member
            exact absurd member List.not_mem_nil
        · exact absurd (mark ▸ named) (escribe_status setports defaultesp)
  | version =>
      intro escritura member
      rcases List.mem_pair.mp member with rfl | rfl
      · exact respeta_ajeno (by decide) _
      · exact respeta_ajeno (by decide) _
  | _ => exact fun _ member => absurd member List.not_mem_nil

-----------------------------------------------------------------------------------------
-- The steps
-----------------------------------------------------------------------------------------

/-- The server is started and stopped without a write. -/
theorem paso_nvs {w w' : Webserver} {suceso : Suceso} (h : w.paso suceso = some w')
    : w'.dev.nvs = w.dev.nvs := by
  have started (suerte : Suerte) : (w.startWebserver suerte).2.dev.nvs = w.dev.nvs := by
    rw [Webserver.startWebserver]
    split
    · rfl
    · split
      · rfl
      · split <;> rfl
  cases suceso with
  | appMain suerte =>
      simp only [Webserver.paso] at h
      split at h
      · cases h
      · obtain rfl := Option.some.inj h
        exact started suerte
  | disconnected =>
      simp only [Webserver.paso] at h
      split at h
      · obtain rfl := Option.some.inj h
        rfl
      · cases h
      · split at h
        · obtain rfl := Option.some.inj h
          rfl
        · cases h
  | gotIp suerte =>
      simp only [Webserver.paso] at h
      split at h
      · obtain rfl := Option.some.inj h
        exact started suerte
      · obtain rfl := Option.some.inj h
        rfl

theorem nvs_suceso (e : Esp32) (suceso : Suceso) : (e.suceso suceso).nvs = e.nvs := by
  rw [Esp32.suceso]
  split
  · next web taken => exact paso_nvs taken
  · rfl

theorem nvs_uart (x : Externo) (e : Esp32) (vuelta : Serial.Vuelta)
    : (e.uart x vuelta).nvs = e.nvs := by
  rw [Esp32.uart]
  split <;> rfl

/-- The boot of a registered card writes nothing. -/
theorem nvs_appMain {x : Externo} {e : Esp32} (registrada : e.nvs.get "7_STATUS-MATR" = some ['1'])
    (respuesta : Option (List Char)) (suerte : Suerte)
    : (e.appMain x respuesta suerte).nvs = e.nvs := by
  obtain ⟨ram, loads⟩ := Option.ne_none_iff_exists'.mp (alArrancar_ne_none.mpr registrada)
  have same : alArrancar ({ e with arrancado := true } : Esp32).nvs = some ram := loads
  rw [Esp32.appMain]
  dsimp only
  rw [same]
  exact nvs_suceso _ _

/-- A login leaves the storage or stores the token that it was granted. -/
theorem login_nvs {parse : Str → Option Json} {c c' : Client.Cliente} {i : Client.Intento}
    (h : Client.login parse c i = some c')
    : c'.nvs = c.nvs ∨ ∃ token, c'.nvs = grabarNvs c.nvs "4_TOKEN-TRAMA" token := by
  obtain ⟨peticion, -, h⟩ := Option.bind_eq_some_iff.mp h
  obtain ⟨s, -, h⟩ := Option.bind_eq_some_iff.mp h
  obtain ⟨respuesta, -, h⟩ := Option.bind_eq_some_iff.mp h
  obtain ⟨dicho, -, h⟩ := Option.bind_eq_some_iff.mp h
  cases dicho with
  | exito token => exact Or.inr ⟨token, (congrArg Client.Cliente.nvs (Option.some.inj h)).symm⟩
  | rechazo => exact Or.inl (congrArg Client.Cliente.nvs (Option.some.inj h)).symm

theorem httptrama_nvs {c c' : Client.Cliente} {webBuffer : Str} {i : Client.Intento}
    (h : Client.httptrama c webBuffer i = some c')
    : c'.nvs = c.nvs := by
  obtain ⟨url, -, h⟩ := Option.bind_eq_some_iff.mp h
  obtain ⟨timeout, -, h⟩ := Option.bind_eq_some_iff.mp h
  obtain ⟨s, -, h⟩ := Option.bind_eq_some_iff.mp h
  obtain ⟨registrado, -, h⟩ := Option.bind_eq_some_iff.mp h
  exact (congrArg Client.Cliente.nvs (Option.some.inj h)).symm

/-- A round of the HTTP client writes at most the token of its login. -/
theorem nvs_httpRestWithUrl (x : Externo) (e : Esp32) (login trama : Client.Intento)
    : (e.httpRestWithUrl x login trama).nvs = e.nvs
      ∨ ∃ token, (e.httpRestWithUrl x login trama).nvs = grabarNvs e.nvs "4_TOKEN-TRAMA" token := by
  rw [Esp32.httpRestWithUrl]
  split
  · exact Or.inl rfl
  · next c entered =>
    have stored := login_nvs entered
    split
    · split
      · exact stored
      · next c' sent =>
        have kept : (e.conCliente c').nvs = c.nvs := httptrama_nvs sent
        rwa [kept]
    · exact stored

/-- A request leaves the storage or makes its writes. -/
theorem nvs_atiende (x : Externo) (e : Esp32) (p : Peticion)
    : (e.atiende x p).nvs = e.nvs
      ∨ (e.atiende x p).nvs = e.nvs.writeAll (p.escrituras x.parse e.web.dev) := by
  rw [Esp32.nvs, Esp32.web_atiende, Webserver.atiende]
  split
  · exact Or.inl rfl
  · right
    rw [Esp32.nvs, ← servir_nvs]
    dsimp only
    cases (servir x.parse e.web.dev p).fin <;> rfl

/-- A step that is no reset leaves a registered card registered, with its identity, by the
event.
-/
theorem paso_permanece {x : Externo} {origen : Almacen} {e : Esp32} {evento : Evento}
    (sin : SinReset x e evento) (permanece : Permanece origen e.nvs)
    : Permanece origen (e.paso x evento).nvs := by
  cases evento with
  | reinicio => exact permanece
  | appMain respuesta suerte =>
      rw [Esp32.paso]
      split
      · exact permanece
      · rwa [nvs_appMain permanece.status]
  | disconnected => rwa [Esp32.paso, nvs_suceso]
  | gotIp suerte => rwa [Esp32.paso, nvs_suceso]
  | uart temperatura digitalInput analogico fuera =>
      rw [Esp32.paso]
      split
      · rwa [nvs_uart]
      · exact permanece
  | login login trama =>
      rw [Esp32.paso]
      split
      · rcases nvs_httpRestWithUrl x e login trama with same | stored
        · rwa [same]
        · obtain ⟨token, stored⟩ := stored
          rw [stored]
          exact permanece.write (respeta_ajeno (by decide) token)
      · exact permanece
  | peticion p =>
      rcases nvs_atiende x e p with same | written
      · rwa [Esp32.paso, same]
      · rw [Esp32.paso, written]
        exact permanece.writeAll (peticion_respeta sin)
  | apagon p k =>
      rw [Esp32.paso, Esp32.apagon]
      split
      · exact permanece
      · exact permanece.writeAll fun escritura member =>
          peticion_respeta sin escritura (List.mem_of_mem_take member)

-----------------------------------------------------------------------------------------
-- Main result
-----------------------------------------------------------------------------------------

/-- A registered card stays registered and keeps its identity, whatever happens to it but an
authenticated request for the factory reset. Witness: `paso_permanece` along the run.
-/
theorem identidad_permanente (x : Externo) {e e' : Esp32} {eventos : List Evento}
    (registrada : e.nvs.get "7_STATUS-MATR" = some ['1'])
    (sin : (firmware x).Along (SinReset x) e eventos)
    (h : (firmware x).run e eventos = some e')
    : e'.nvs.get "7_STATUS-MATR" = some ['1']
      ∧ ∀ registro ∈ ["7_USER_ID", "7_AHSN_BASE64", "7_SERIAL_ID"],
          e'.nvs.get registro = e.nvs.get registro := by
  have start : Permanece e.nvs e.nvs := ⟨registrada, fun _ _ => rfl⟩
  have preserved (s : Esp32) (evento : Evento) (next : Esp32) (sin : SinReset x s evento)
      (permanece : Permanece e.nvs s.nvs) (taken : (firmware x).step s evento = some next)
      : Permanece e.nvs next.nvs :=
    Option.some.inj taken ▸ paso_permanece sin permanece
  have last := Machine.invariant_run_of_guard preserved sin start h
  exact ⟨last.status, last.igual⟩

/-- A registered card with the settings of its first boot and a token of its own. -/
def registrada : Device :=
  { Device.nueva with
    nvs := (valoresIniciales Device.nueva.nvs).writeAll [("7_STATUS-MATR", ['1']),
      ("7_USER_ID", ['u']), ("7_AHSN_BASE64", ['b']), ("7_SERIAL_ID", ['s']),
      (tokHttpser, secreto)] }

/-- An authenticated request to `DEFAULTESP` that does not ask for a reset. -/
def textoNegado : Str := "\x7b\"token\":\"secreto\",\"RESET\":\"false\"\x7d".toList

def resetNegado : Json :=
  .object [("token".toList, .string secreto), ("RESET".toList, .string "false".toList)]

/-- Nothing is encrypted. -/
def sinCifrar : Externo where
  parse := JsonText.parse atoi
  atof _ := 0
  aesCryptCbc _ _ texto := texto
  base64Encode texto := texto

/-- A boot, the request, a login that is granted, a power failure in another request, and a boot. -/
def dosArranques : List Evento :=
  [.appMain none ⟨true, true⟩, .peticion (.enUnaPieza .defaultesp 0 textoNegado [nul] []),
    .login (.entrega false [Client.concedida]) .falla, .apagon .version 1,
    .appMain none ⟨true, true⟩]

theorem identidad_permanente_reset_negado
    : ∃ e', (firmware sinCifrar).run (Esp32.arranque registrada) dosArranques = some e'
        ∧ e'.nvs.get "7_STATUS-MATR" = some ['1'] ∧ e'.nvs.get "7_SERIAL_ID" = some ['s'] := by
  have marked : (Esp32.arranque registrada).nvs.get "7_STATUS-MATR" = some ['1']
      ∧ (Esp32.arranque registrada).nvs.get "7_SERIAL_ID" = some ['s'] := by
    decide +kernel
  have parsed : JsonText.parse atoi (cstr (textoNegado ++ [nul])) = some resetNegado := rfl
  have negado (e : Esp32)
      : SinReset sinCifrar e (.peticion (.enUnaPieza .defaultesp 0 textoNegado [nul] [])) := by
    intro pide
    obtain ⟨turno, taken, root, token, read, -, -, reset⟩ := pide
    rw [List.mem_singleton.mp (Manejador.turnos_textos taken)] at read
    obtain rfl := Option.some.inj (parsed.symm.trans read)
    exact absurd reset (by decide +kernel)
  have sin : (firmware sinCifrar).Along (SinReset sinCifrar) (Esp32.arranque registrada)
      dosArranques :=
    ⟨trivial, fun e _ => ⟨negado e, fun _ _ => ⟨trivial, fun _ _ => ⟨id, fun _ _ =>
      ⟨trivial, fun _ _ => trivial⟩⟩⟩⟩⟩
  have total : ∃ e', (firmware sinCifrar).run (Esp32.arranque registrada) dosArranques = some e' :=
    ⟨_, rfl⟩
  obtain ⟨e', reached⟩ := total
  obtain ⟨status, same⟩ := identidad_permanente sinCifrar marked.1 sin reached
  exact ⟨e', reached, status, (same "7_SERIAL_ID" (by simp)).trans marked.2⟩

end EspHttpControl.Firmware
