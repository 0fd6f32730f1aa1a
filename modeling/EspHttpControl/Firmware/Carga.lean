import EspHttpControl.Firmware.Arranque

/-! The token and the identity behind every start of the server.
The writes since the last erase name what a server needs wherever `app_main` decides to start one;
a network event may come earlier, when the storage is erased or about to be.
-/

namespace EspHttpControl.Firmware

open CText Nvs Machines Http

/-- What a server needs. -/
def necesarios : List String := ["5_TOK-HTTPSER", "7_SERIAL_ID", "7_USER_ID", "7_AHSN_BASE64"]

/-- The token and the identity are held as they were written since the last erase. -/
def Placa.ConIdentidad (s : Placa) : Prop :=
  ∃ escrituras, s.desde = some escrituras
    ∧ ∀ registro ∈ necesarios, s.nvs.Written escrituras registro

/-- What should hold at every step: a start that loads the token finds the token and the identity.
-/
def CargaConIdentidad (x : Externo) (s : Placa) (paso : PasoPlaca) : Prop :=
  Carga s.web (s.paso x paso).web → s.ConIdentidad

/-- `app_main` has found a registered card, or has the identity and the initial values behind it.
-/
def Placa.Decidida (s : Placa) : Prop :=
  match s.fase with
  | .inicio => s.nvs.get "7_STATUS-MATR" = some ['1']
  | .arranca => True
  | .fin exito => exito = true
  | _ => False

/-- The network starts no server before `app_main` has decided, and `app_main` does not erase the
storage under a server.
-/
def EnOrden (s : Placa) : PasoPlaca → Prop
  | .gotIp suerte =>
    s.web.server = .null → s.web.serverData = false → suerte.calloc = true → s.Decidida
  | .avanza _ _ =>
    s.fase = .inicio → s.nvs.get "7_STATUS-MATR" ≠ some ['1'] → s.web.serverData = false
  | _ => True

/-- The writes since the last erase and those to come name all that a server needs. -/
def Nombra (desde : Option (List Escritura)) (pendientes : List Escritura) : Prop :=
  ∃ escrituras, desde = some escrituras
    ∧ ∀ registro ∈ necesarios, registro ∈ (escrituras ++ pendientes).map Prod.fst

/-- No write sets the mark. -/
def SinMarca (escrituras : List Escritura) : Prop :=
  ∀ escritura ∈ escrituras, escritura.1 = "7_STATUS-MATR" → escritura.2 = ['0']

/-- What holds in a phase. -/
def Fase.Vale (nvs : Almacen) (desde : Option (List Escritura)) : Fase → Prop
  | .inicio => True
  | .borrado => desde = some [] ∧ nvs.get "7_STATUS-MATR" ≠ some ['1']
  | .guarda escritura pendientes exito =>
    nvs.get "7_STATUS-MATR" ≠ some ['1'] ∧ SinMarca (escritura :: pendientes)
      ∧ (exito = true → Nombra desde (escritura :: pendientes))
  | .arranca => Nombra desde []
  | .fin exito => exito = true → Nombra desde []

/-- `app_main` is not between the erase and its last write. -/
def Fase.Quieta : Fase → Prop
  | .borrado => False
  | .guarda _ _ _ => False
  | _ => True

structure Placa.Sana (s : Placa) : Prop where
  registro :
    ∀ escrituras, s.desde = some escrituras → s.nvs = Registers.Store.empty.writeAll escrituras
  status : s.nvs.get "7_STATUS-MATR" = some ['1'] → Nombra s.desde []
  servidor : s.web.activos ≠ [] → s.web.serverData = true
  datos : s.web.serverData = true → Nombra s.desde [] ∧ s.fase.Quieta
  fase : s.fase.Vale s.nvs s.desde

/-- In a sound state the names are enough. -/
theorem Placa.Sana.conIdentidad {s : Placa} (sana : s.Sana) (nombra : Nombra s.desde [])
    : s.ConIdentidad := by
  obtain ⟨escrituras, since, named⟩ := nombra
  refine ⟨escrituras, since, fun registro needed => ?_⟩
  rw [sana.registro escrituras since]
  have known := named registro needed
  rw [List.append_nil] at known
  have admitted : ∀ registro ∈ necesarios, Admite registro := by
    decide
  exact Registers.Store.written_writeAll known (admitted registro needed) _

theorem Placa.Sana.decidida {s : Placa} (sana : s.Sana) (decidida : s.Decidida)
    : Nombra s.desde [] ∧ s.fase.Quieta := by
  have holds := sana.fase
  rw [Placa.Decidida] at decidida
  cases fase : s.fase with
  | inicio =>
      rw [fase] at decidida
      exact ⟨sana.status decidida, trivial⟩
  | arranca =>
      rw [fase] at holds
      exact ⟨holds, trivial⟩
  | fin exito =>
      rw [fase] at decidida holds
      exact ⟨holds decidida, trivial⟩
  | borrado =>
      rw [fase] at decidida
      exact decidida.elim
  | guarda escritura pendientes exito =>
      rw [fase] at decidida
      exact decidida.elim

theorem Nombra.append {desde : Option (List Escritura)} (nombra : Nombra desde [])
    (escrituras : List Escritura)
    : Nombra (desde.map (· ++ escrituras)) [] := by
  obtain ⟨previas, rfl, named⟩ := nombra
  refine ⟨previas ++ escrituras, rfl, fun registro needed => ?_⟩
  have known := named registro needed
  rw [List.append_nil] at known ⊢
  rw [List.map_append]
  exact List.mem_append_left _ known

theorem Nombra.cons {desde : Option (List Escritura)} {escritura : Escritura}
    {pendientes : List Escritura} (nombra : Nombra desde (escritura :: pendientes))
    : Nombra (desde.map (· ++ [escritura])) pendientes := by
  obtain ⟨previas, rfl, named⟩ := nombra
  refine ⟨previas ++ [escritura], rfl, fun registro needed => ?_⟩
  rw [List.append_assoc]
  exact named registro needed

/-- Behind the names a phase that is not between the erase and the last write asks for no more. -/
theorem Fase.vale_of_nombra {fase : Fase} {desde : Option (List Escritura)} (quieta : fase.Quieta)
    (nombra : Nombra desde []) (nvs : Almacen)
    : fase.Vale nvs desde := by
  cases fase with
  | inicio => exact trivial
  | borrado => exact quieta.elim
  | guarda escritura pendientes exito => exact quieta.elim
  | arranca => exact nombra
  | fin exito => exact fun _ => nombra

theorem Fase.vale_tras {escrituras : List Escritura} {exito : Bool} {nvs : Almacen}
    {desde : Option (List Escritura)} (status : nvs.get "7_STATUS-MATR" ≠ some ['1'])
    (sinMarca : SinMarca escrituras) (nombra : exito = true → Nombra desde escrituras)
    : (Fase.tras escrituras exito).Vale nvs desde := by
  cases escrituras with
  | cons escritura pendientes => exact ⟨status, sinMarca, nombra⟩
  | nil =>
      cases exito with
      | true => exact nombra rfl
      | false => exact fun failed => nomatch failed

/-- No write of the exchange sets the mark, and a success writes all that a server needs. -/
theorem escriturasAhsn_nombra {x : Externo} {mac : Vector UInt8 6} {respuesta : Option (List Char)}
    {escrituras : List Escritura} {exito : Bool}
    (outcome : escriturasAhsn x mac respuesta = some (escrituras, exito))
    : SinMarca escrituras
      ∧ (exito = true → ∀ registro ∈ necesarios, registro ∈ escrituras.map Prod.fst) := by
  have cleanup : SinMarca [("7_STATUS-MATR", "0".toList)] := by
    intro escritura member _
    obtain rfl := List.mem_singleton.mp member
    rfl
  cases respuesta with
  | none =>
    obtain ⟨rfl, rfl⟩ := Prod.mk.inj (Option.some.inj outcome)
    exact ⟨cleanup, nofun⟩
  | some data =>
    rw [escriturasAhsn] at outcome
    split at outcome
    · obtain ⟨rfl, rfl⟩ := Prod.mk.inj (Option.some.inj outcome)
      exact ⟨cleanup, nofun⟩
    · split at outcome
      · cases outcome
      · split at outcome
        · obtain ⟨rfl, rfl⟩ := Prod.mk.inj (Option.some.inj outcome)
          exact ⟨cleanup, nofun⟩
        · obtain ⟨rfl, rfl⟩ := Prod.mk.inj (Option.some.inj outcome)
          have names : (entradas x (serialDe mac (idDe (cstr data))) ++ entradasIniciales).map Prod.fst
              = ["7_SERIAL_ID", "7_USER_ID", "7_AHSN_BASE64"]
                ++ entradasIniciales.map Prod.fst :=
            rfl
          refine ⟨fun escritura member mark => ?_, fun _ => ?_⟩
          · have named := List.mem_map_of_mem (f := Prod.fst) member
            rw [names, mark] at named
            exact absurd named (by decide)
          · rw [names]
            decide

-----------------------------------------------------------------------------------------
-- Steps
-----------------------------------------------------------------------------------------

namespace Placa

variable {x : Externo} {s : Placa}

theorem Sana.reinicio (sana : s.Sana) : s.reinicio.Sana where
  registro := sana.registro
  status := sana.status
  servidor some' := absurd rfl some'
  datos set := nomatch set
  fase := trivial

/-- The phase and the memory of the server may change, if the storage does not and no server is
started.
-/
theorem Sana.conWeb {web : Webserver} {fase : Fase} (sana : s.Sana) (nvs : web.dev.nvs = s.nvs)
    (datos : web.serverData = s.web.serverData) (activos : web.activos ⊆ s.web.activos)
    (vale : fase.Vale s.nvs s.desde) (quieta : s.web.serverData = true → fase.Quieta)
    : ({ s with web := web, fase := fase } : Placa).Sana where
  registro escrituras since := nvs.trans (sana.registro escrituras since)
  status mark := sana.status ((congrArg (Registers.Store.get · "7_STATUS-MATR") nvs).symm.trans mark)
  servidor some' := by
    rw [datos]
    apply sana.servidor
    intro none'
    exact some' (List.subset_nil.mp (none' ▸ activos))
  datos set := by
    rw [datos] at set
    exact ⟨(sana.datos set).1, quieta set⟩
  fase := by
    have moved : fase.Vale web.dev.nvs s.desde := by rwa [nvs]
    exact moved

theorem Sana.conFase {fase : Fase} (sana : s.Sana) (vale : fase.Vale s.nvs s.desde)
    (quieta : s.web.serverData = true → fase.Quieta)
    : ({ s with fase := fase } : Placa).Sana :=
  sana.conWeb rfl rfl (List.Subset.refl _) vale quieta

theorem Sana.borra (sana : s.Sana) (libre : s.web.serverData = false) : s.borra.Sana where
  registro escrituras since := by
    obtain rfl := Option.some.inj since
    rfl
  status mark := nomatch mark
  servidor := sana.servidor
  datos set := by
    have free : s.borra.web.serverData = false := libre
    rw [free] at set
    cases set
  fase := ⟨rfl, nofun⟩

theorem Sana.escribe {escrituras : List Escritura} {fase : Fase} (sana : s.Sana)
    (status : (s.nvs.writeAll escrituras).get "7_STATUS-MATR" = some ['1']
      → Nombra (s.desde.map (· ++ escrituras)) [])
    (vale : fase.Vale (s.nvs.writeAll escrituras) (s.desde.map (· ++ escrituras)))
    (quieta : s.web.serverData = true → fase.Quieta)
    : ({ s.escribe escrituras with fase := fase } : Placa).Sana where
  registro todas since := by
    obtain ⟨previas, known, rfl⟩ := Option.map_eq_some_iff.mp since
    rw [Registers.Store.writeAll_append, ← sana.registro previas known]
    rfl
  status := status
  servidor := sana.servidor
  datos set := ⟨(sana.datos set).1.append escrituras, quieta set⟩
  fase := vale

/-- Behind the names every write leaves a sound state. -/
theorem Sana.escribe_todas (sana : s.Sana) (set : s.web.serverData = true)
    (escrituras : List Escritura)
    : (s.escribe escrituras).Sana := by
  obtain ⟨nombra, quieta⟩ := sana.datos set
  have moved : ({ s.escribe escrituras with fase := s.fase } : Placa).Sana :=
    sana.escribe (fun _ => nombra.append escrituras)
      (Fase.vale_of_nombra quieta (nombra.append escrituras) _) fun _ => quieta
  exact moved

/-- A call or an event of the server, by whether it loads the token. -/
theorem Sana.suceso {suceso : Suceso} {fase : Fase} (sana : s.Sana)
    (vale : fase.Vale s.nvs s.desde) (quieta : s.web.serverData = true → fase.Quieta)
    (carga : ∀ web, s.web.paso suceso = some web → Carga s.web web
      → Nombra s.desde [] ∧ fase.Quieta)
    : (s.suceso suceso fase).Sana := by
  rw [Placa.suceso]
  split
  · next web taken =>
    have same : web.dev.nvs = s.nvs := paso_nvs taken
    have moved : fase.Vale web.dev.nvs s.desde := by rwa [same]
    rcases paso_carga taken with sigue | loads
    · exact sana.conWeb same sigue.datos sigue.activos vale quieta
    · exact {
        registro := fun escrituras since => same.trans (sana.registro escrituras since)
        status := fun _ => (carga web taken loads).1
        servidor := fun _ => loads.datos
        datos := fun _ => carga web taken loads
        fase := moved
      }
  · exact sana.reinicio

/-- No server stands between the erase and the last write. -/
theorem Sana.sin_servidor (sana : s.Sana) (busy : ¬s.fase.Quieta) {fase : Fase}
    (set : s.web.serverData = true)
    : fase.Quieta :=
  absurd (sana.datos set).2 busy

/-- A write that is not one of the mark leaves the card without it. -/
theorem sin_marca_write {nvs : Almacen} {escritura : Escritura}
    (unmarked : nvs.get "7_STATUS-MATR" ≠ some ['1'])
    (sinMarca : escritura.1 = "7_STATUS-MATR" → escritura.2 = ['0'])
    : (nvs.write escritura.1 escritura.2).get "7_STATUS-MATR" ≠ some ['1'] := by
  intro mark
  by_cases status : escritura.1 = "7_STATUS-MATR"
  · rw [status, nvs.get_write_self _ (by decide), sinMarca status] at mark
    cases mark
  · rw [nvs.get_write_of_ne _ (Ne.symm status)] at mark
    exact unmarked mark

/-- A step of `app_main`, by what it does. -/
theorem Sana.avanza {respuesta : Option (List Char)} {suerte : Suerte} {siguiente : Placa}
    (sana : s.Sana) (orden : EnOrden s (.avanza respuesta suerte))
    (paso : Avanza x respuesta suerte s siguiente)
    : siguiente.Sana := by
  have holds := sana.fase
  cases paso with
  | registrada fase marca => exact sana.conFase (sana.status marca) fun _ => trivial
  | borra fase sinMarca => exact sana.borra (orden fase sinMarca)
  | reinicia fase outcome => exact sana.reinicio
  | pide fase outcome =>
      rw [fase] at holds
      obtain ⟨since, unmarked⟩ := holds
      obtain ⟨sinMarca, named⟩ := escriturasAhsn_nombra outcome
      refine sana.conFase (Fase.vale_tras unmarked sinMarca fun success => ?_)
        (sana.sin_servidor (fase ▸ id))
      exact ⟨[], since, named success⟩
  | guarda fase =>
      rw [fase] at holds
      obtain ⟨unmarked, sinMarca, nombra⟩ := holds
      have still := sin_marca_write unmarked (sinMarca _ List.mem_cons_self)
      refine sana.escribe (fun mark => absurd mark still) ?_ (sana.sin_servidor (fase ▸ id))
      refine Fase.vale_tras still (fun otra member => ?_) fun success => (nombra success).cons
      exact sinMarca otra (List.mem_cons_of_mem _ member)
  | arranca fase =>
      rw [fase] at holds
      exact sana.suceso (fun _ => holds) (fun _ => trivial) fun _ _ _ => ⟨holds, trivial⟩
  | acabada fase => exact sana

/-- A request writes under a server, and leaves its card running or restarts it. -/
theorem Sana.atiende {p : Peticion} (sana : s.Sana) : (s.atiende x p).Sana := by
  rw [Placa.atiende]
  split
  · exact sana
  · next some' =>
    have set := sana.servidor some'
    have written := sana.escribe_todas set (p.escrituras x.parse s.web.dev)
    have same : (servir x.parse s.web.dev p).dev.nvs
        = (s.escribe (p.escrituras x.parse s.web.dev)).nvs :=
      servir_nvs x.parse s.web.dev p
    have quieta := (sana.datos set).2
    have served : ({
          web := { s.web with dev := (servir x.parse s.web.dev p).dev }
          fase := s.fase
          desde := s.desde.map (· ++ p.escrituras x.parse s.web.dev)
        } : Placa).Sana :=
      written.conWeb same rfl (List.Subset.refl _) written.fase fun _ => quieta
    rw [Webserver.atiende, if_neg some']
    dsimp only
    cases (servir x.parse s.web.dev p).fin with
    | restart => exact served.reinicio
    | nullPointer => exact served.reinicio
    | ok => exact served
    | fail => exact served
    | espera => exact served

theorem Sana.apagon {p : Peticion} (sana : s.Sana) (k : Nat) : (s.apagon x p k).Sana := by
  rw [Placa.apagon]
  split
  · exact sana.reinicio
  · next some' => exact (sana.escribe_todas (sana.servidor some') _).reinicio

/-- Where the pointer of the server is not set anew no token is loaded. -/
theorem not_carga {w w' : Webserver} (datos : w'.serverData = true → w.serverData = true)
    : ¬Carga w w' := by
  intro loads
  have set := datos loads.datos
  rw [loads.libre] at set
  cases set

theorem carga_of_suceso {suceso : Suceso} {fase : Fase}
    (loads : Carga s.web (s.suceso suceso fase).web)
    : ∃ web, s.web.paso suceso = some web ∧ Carga s.web web := by
  rw [Placa.suceso] at loads
  split at loads
  · next web taken => exact ⟨web, taken, loads⟩
  · exact absurd loads (not_carga fun set => absurd set Bool.false_ne_true)

theorem not_carga_disconnected {web : Webserver} (taken : s.web.paso .disconnected = some web)
    : ¬Carga s.web web := by
  apply not_carga
  simp only [Webserver.paso] at taken
  split at taken
  · obtain rfl := Option.some.inj taken
    exact id
  · cases taken
  · split at taken
    · obtain rfl := Option.some.inj taken
      exact id
    · cases taken

theorem not_carga_atiende (x : Externo) (w : Webserver) (p : Peticion)
    : ¬Carga w (w.atiende x.parse p) := by
  apply not_carga
  rw [Webserver.atiende]
  split
  · exact id
  · dsimp only
    cases (servir x.parse w.dev p).fin with
    | restart => exact fun set => absurd set Bool.false_ne_true
    | nullPointer => exact fun set => absurd set Bool.false_ne_true
    | ok => exact id
    | fail => exact id
    | espera => exact id

/-- A start on a network event, where it loads the token, is one of a card that has decided. -/
theorem decidida_of_carga {suerte : Suerte} {web : Webserver} (orden : EnOrden s (.gotIp suerte))
    (taken : s.web.paso (.gotIp suerte) = some web) (loads : Carga s.web web)
    : s.Decidida := by
  have stays : web ≠ s.web := by
    rintro rfl
    exact absurd loads.datos (by rw [loads.libre]; decide)
  simp only [Webserver.paso] at taken
  split at taken
  · next null =>
    obtain rfl := Option.some.inj taken
    refine orden null loads.libre ?_
    by_contra memory
    have missing : suerte.calloc = false := by
      simpa using memory
    have set := loads.datos
    simp [Webserver.startWebserver, loads.libre, missing] at set
  · exact absurd (Option.some.inj taken).symm stays

/-- Every step in order leaves a sound state, by what happens. -/
theorem Sana.paso {paso : PasoPlaca} (sana : s.Sana) (orden : EnOrden s paso)
    : (s.paso x paso).Sana := by
  cases paso with
  | reinicio => exact sana.reinicio
  | avanza respuesta suerte => exact sana.avanza orden (avanza_cases x s respuesta suerte)
  | disconnected =>
      refine sana.suceso sana.fase (fun set => (sana.datos set).2) fun web taken loads => ?_
      exact absurd loads (not_carga_disconnected taken)
  | gotIp suerte =>
      refine sana.suceso sana.fase (fun set => (sana.datos set).2) fun web taken loads => ?_
      exact sana.decidida (decidida_of_carga orden taken loads)
  | peticion p => exact sana.atiende
  | apagon p k => exact sana.apagon k

/-- Of the steps of `app_main` only the call of `start_webserver` loads the token. -/
theorem arranca_of_carga {respuesta : Option (List Char)} {suerte : Suerte} {siguiente : Placa}
    (paso : Avanza x respuesta suerte s siguiente) (loads : Carga s.web siguiente.web)
    : s.fase = .arranca := by
  cases paso with
  | arranca fase => exact fase
  | reinicia fase outcome =>
      exact absurd loads (not_carga fun set => absurd set Bool.false_ne_true)
  | _ => exact absurd loads (not_carga id)

/-- A start in order that loads the token finds what a server needs, by what happens. -/
theorem Sana.cargaConIdentidad {paso : PasoPlaca} (sana : s.Sana) (orden : EnOrden s paso)
    : CargaConIdentidad x s paso := by
  intro loads
  cases paso with
  | reinicio => exact absurd loads (not_carga nofun)
  | avanza respuesta suerte =>
      have holds := sana.fase
      rw [arranca_of_carga (avanza_cases x s respuesta suerte) loads] at holds
      exact sana.conIdentidad holds
  | disconnected =>
      obtain ⟨web, taken, loads⟩ := carga_of_suceso loads
      exact absurd loads (not_carga_disconnected taken)
  | gotIp suerte =>
      obtain ⟨web, taken, loads⟩ := carga_of_suceso loads
      exact sana.conIdentidad (sana.decidida (decidida_of_carga orden taken loads)).1
  | peticion p =>
      rw [Placa.paso, Placa.atiende] at loads
      split at loads
      · exact absurd loads (not_carga id)
      · exact absurd loads (not_carga_atiende x s.web p)
  | apagon p k =>
      rw [Placa.paso, Placa.apagon] at loads
      split at loads
      · exact absurd loads (not_carga nofun)
      · exact absurd loads (not_carga nofun)

/-- A card that is not registered starts soundly. -/
theorem Sana.arranque {dev : Device} (nueva : dev.nvs.get "7_STATUS-MATR" ≠ some ['1'])
    : (arranque dev).Sana where
  registro _ since := nomatch since
  status mark := absurd mark nueva
  servidor some' := absurd rfl some'
  datos set := nomatch set
  fase := trivial

end Placa

-----------------------------------------------------------------------------------------
-- Main result
-----------------------------------------------------------------------------------------

/-- From a card that is not registered, in every run in which the network starts no server before
`app_main` has decided and `app_main` erases nothing under a server, every start that loads the
token finds the token and the identity as they were written since the last erase. Witness:
`Sana` along the run.
-/
theorem placa_cargaConIdentidad (x : Externo) {dev : Device} {pasos : List PasoPlaca}
    (nueva : dev.nvs.get "7_STATUS-MATR" ≠ some ['1'])
    (orden : (placa x).Along EnOrden (Placa.arranque dev) pasos)
    : (placa x).Along (CargaConIdentidad x) (Placa.arranque dev) pasos := by
  have preserved (s : Placa) (paso : PasoPlaca) (next : Placa) (sana : s.Sana)
      (orden : EnOrden s paso) (taken : (placa x).step s paso = some next)
      : next.Sana :=
    Option.some.inj taken ▸ sana.paso orden
  exact Machine.along_of_guard (fun _ _ sana orden => sana.cargaConIdentidad orden) preserved
    (Placa.Sana.arranque nueva) orden

theorem Fase.tras_ne_inicio (escrituras : List Escritura) (exito : Bool)
    : Fase.tras escrituras exito ≠ .inicio := by
  cases escrituras <;> cases exito <;> intro again <;> cases again

/-- `app_main` comes back to its start by a restart only. -/
theorem libre_avanza {x : Externo} {respuesta : Option (List Char)} {suerte : Suerte}
    {s siguiente : Placa} (libre : s.fase = .inicio → s.web.serverData = false)
    (paso : Placa.Avanza x respuesta suerte s siguiente)
    : siguiente.fase = .inicio → siguiente.web.serverData = false := by
  intro again
  cases paso with
  | registrada fase marca => cases again
  | borra fase sinMarca => cases again
  | reinicia fase outcome => rfl
  | pide fase outcome => exact absurd again (Fase.tras_ne_inicio _ _)
  | guarda fase => exact absurd again (Fase.tras_ne_inicio _ _)
  | arranca fase =>
      rw [Placa.suceso] at again ⊢
      split at again
      · cases again
      · rfl
  | acabada fase => exact libre again

/-- A run of `app_main` alone is in order, by induction on its steps. -/
theorem enOrden_avanza (x : Externo) (respuesta : Option (List Char)) (suerte : Suerte) (n : Nat)
    {s : Placa} (libre : s.fase = .inicio → s.web.serverData = false)
    : (placa x).Along EnOrden s (List.replicate n (.avanza respuesta suerte)) := by
  induction n generalizing s with
  | zero => trivial
  | succ n ih =>
      refine ⟨fun fase _ => libre fase, fun next taken => ih ?_⟩
      obtain rfl := Option.some.inj taken
      exact libre_avanza libre (Placa.avanza_cases x s respuesta suerte)

/-- An answer of the STM with a number of 16 characters. -/
def respuestaValida : Option (List Char) := some ("p1-2d3630343733a55148m3".toList ++ [nul])

theorem placa_cargaConIdentidad_primera
    : ∃ s,
        (placa conCambio).run (Placa.arranque .nueva)
          (List.replicate 19 (.avanza respuestaValida ⟨true, true⟩)) = some s
        ∧ Carga s.web (s.paso conCambio (.avanza respuestaValida ⟨true, true⟩)).web
        ∧ s.ConIdentidad := by
  have total : ∃ s,
      (placa conCambio).run (Placa.arranque .nueva)
        (List.replicate 19 (.avanza respuestaValida ⟨true, true⟩)) = some s :=
    ⟨_, rfl⟩
  obtain ⟨s, reached⟩ := total
  have facts : ((placa conCambio).run (Placa.arranque .nueva)
        (List.replicate 19 (.avanza respuestaValida ⟨true, true⟩))).map
          (fun s => (s.fase, s.web.serverData, s.web.appMain))
      = some (.arranca, false, false) := by
    decide +kernel
  rw [reached] at facts
  obtain ⟨fase, facts⟩ := Prod.mk.inj (Option.some.inj facts)
  obtain ⟨libre, pending⟩ := Prod.mk.inj facts
  have loads : Carga s.web (s.paso conCambio (.avanza respuestaValida ⟨true, true⟩)).web := by
    rw [Placa.paso, Placa.avanza_arranca fase]
    simp only [Placa.suceso, Webserver.paso, pending, Webserver.startWebserver, libre]
    exact ⟨libre, rfl, rfl, List.Subset.refl _⟩
  have orden : (placa conCambio).Along EnOrden (Placa.arranque .nueva)
      (List.replicate 20 (.avanza respuestaValida ⟨true, true⟩)) :=
    enOrden_avanza conCambio _ _ 20 fun _ => rfl
  have all := placa_cargaConIdentidad conCambio (by decide) orden
  exact ⟨s, reached, loads, Machine.along_iff.mp all _ _ [] rfl s reached loads⟩

/-- The STM is silent, and the network comes back: the server starts on the erased storage. -/
theorem placa_no_cargaConIdentidad
    : ¬∀ (x : Externo) (dev : Device) (pasos : List PasoPlaca),
        dev.nvs.get "7_STATUS-MATR" ≠ some ['1']
        → (placa x).Along (CargaConIdentidad x) (Placa.arranque dev) pasos := by
  intro claim
  have run := claim conCambio .nueva
    [.avanza none ⟨true, true⟩, .avanza none ⟨true, true⟩, .avanza none ⟨true, true⟩,
      .disconnected, .gotIp ⟨true, true⟩]
    (by decide)
  have reconexion := Machine.along_iff.mp run
    [.avanza none ⟨true, true⟩, .avanza none ⟨true, true⟩, .avanza none ⟨true, true⟩,
      .disconnected]
    (.gotIp ⟨true, true⟩) [] rfl _ rfl
  obtain ⟨escrituras, since, held⟩ := reconexion ⟨rfl, rfl, rfl, List.Subset.refl _⟩
  obtain ⟨token, written, -⟩ := held "5_TOK-HTTPSER" (by decide)
  obtain rfl := Option.some.inj since
  simp at written

end EspHttpControl.Firmware
