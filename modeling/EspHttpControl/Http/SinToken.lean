import EspHttpControl.CText.JsonText
import EspHttpControl.Http.Handlers

/-! Requests without the token in force change no setting.
The only names written without a token are the two that `/VERSION` derives from the address of
the card.
-/

namespace EspHttpControl.Http

open CText Nvs Machines

def Peticion.textos : Peticion → List Str
  | .conToken _ _ recepciones => Http.textos recepciones
  | .echo _ recepciones => Http.textos recepciones
  | .ctrl recepciones => Http.textos recepciones
  | _ => []

/-- No piece of the request parses to an object with the token in force. -/
def SinToken (parse : Str → Option Json) (tokenHttser : Option Str) (p : Peticion) : Prop :=
  ∀ texto ∈ p.textos, ¬Autentica parse tokenHttser texto

def registrosVersion : List String := ["8_MACADRRWIFI", "2_WiFi-AP-SSID"]

/-- The token in force, the event log and every setting that `/VERSION` does not write are
the same on both devices.
-/
structure Conserva (antes despues : Device) : Prop where
  token : despues.tokenHttser = antes.tokenHttser
  log : despues.log = antes.log
  nvs : ∀ registro, registro ∉ registrosVersion →
    despues.nvs.get registro = antes.nvs.get registro

theorem Conserva.refl (d : Device) : Conserva d d := ⟨rfl, rfl, fun _ _ => rfl⟩

theorem Conserva.trans {first second third : Device} (left : Conserva first second)
    (right : Conserva second third)
    : Conserva first third :=
  ⟨right.token.trans left.token, right.log.trans left.log,
    fun registro other => (right.nvs registro other).trans (left.nvs registro other)⟩

/-- Storing under a name that `/VERSION` writes conserves the rest. -/
theorem conserva_grabarNvs {registro : String} (member : registro ∈ registrosVersion)
    (d : Device) (dato : Str)
    : Conserva d (d.grabarNvs registro dato) := by
  refine ⟨rfl, rfl, fun other absent => ?_⟩
  exact d.nvs.get_write_of_ne dato fun same => absent (same ▸ member)

/-- Sending the pieces back changes nothing, by induction over the receive loop. -/
theorem echoPostHandler_inerte (d : Device) (recepciones : List Recepcion)
    : ∀ (remaining : Nat) (enviados : List Respuesta),
        (echoPostHandler d remaining recepciones enviados).dev = d
        ∧ (echoPostHandler d remaining recepciones enviados).fin ≠ .restart := by
  induction recepciones with
  | nil =>
      intro remaining enviados
      cases remaining <;> exact ⟨rfl, by simp [echoPostHandler]⟩
  | cons recepcion rest ih =>
      intro remaining enviados
      cases remaining with
      | zero => exact ⟨rfl, by simp [echoPostHandler]⟩
      | succ remaining =>
          cases recepcion with
          | timeout => exact ih (remaining + 1) enviados
          | error => exact ⟨rfl, by simp [echoPostHandler]⟩
          | pieza datos resto =>
              cases datos with
              | nil => exact ⟨rfl, by simp [echoPostHandler]⟩
              | cons byte datos => exact ih _ _

/-- One request without the token conserves the settings and the log and restarts nothing,
by the endpoint.
-/
theorem servir_sin_token {parse : Str → Option Json} {d : Device} {p : Peticion}
    (sin : SinToken parse d.tokenHttser p)
    : Conserva d (servir parse d p).dev ∧ (servir parse d p).fin ≠ .restart := by
  have unchanged {r : Resultado} (same : r.dev = d ∧ r.fin ≠ .restart)
      : Conserva d r.dev ∧ r.fin ≠ .restart :=
    ⟨same.1 ▸ .refl d, same.2⟩
  cases p with
  | conToken endpoint contentLen recepciones => exact unchanged (Manejador.handler_inerte sin)
  | version =>
      obtain ⟨stored, ends⟩ := versionHandler_textoMac d
      rw [servir, stored, ends]
      exact ⟨(conserva_grabarNvs (by decide) d _).trans (conserva_grabarNvs (by decide) _ _), nofun⟩
  | webbuffer => exact ⟨.refl d, by simp [servir, datosHandler]⟩
  | ds18b20 => exact ⟨.refl d, by simp [servir, datosHandler]⟩
  | punto punto => exact ⟨.refl d, by simp [servir, datosHandler]⟩
  | echo contentLen recepciones =>
      simp only [servir]
      split
      · exact unchanged (echoPostHandler_inerte d recepciones contentLen [])
      · exact ⟨.refl d, by simp [http404ErrorHandler]⟩
  | ctrl recepciones =>
      simp only [servir]
      fun_cases ctrlPutHandler
      all_goals exact ⟨⟨rfl, rfl, fun _ _ => rfl⟩, by simp⟩
  | download uri directorio =>
      simp only [servir]
      fun_cases downloadGetHandler
      all_goals exact ⟨.refl d, by simp⟩

/-- A step of the server on a request without the token conserves what the run conserved so
far.
-/
theorem servidor_conserva {parse : Str → Option Json} {origen d d' : Device} {p : Peticion}
    (sin : SinToken parse origen.tokenHttser p) (conserva : Conserva origen d)
    (h : (servidor parse).step d p = some d')
    : Conserva origen d' := by
  obtain rfl := Option.some.inj h
  rw [← conserva.token] at sin
  exact conserva.trans (servir_sin_token sin).1

/-- Whatever requests without the token arrive, in any order, the event log and every setting
that `/VERSION` does not derive from the address of the card stay as they were, and no handler
restarts the card. Witness: the run rule with `Conserva` as invariant.
-/
theorem sin_token_sin_cambios (parse : Str → Option Json) (d : Device) (ps : List Peticion)
    (sin : ∀ p ∈ ps, SinToken parse d.tokenHttser p)
    : (∃ d', (servidor parse).run d ps = some d'
        ∧ d'.log = d.log
        ∧ ∀ registro, registro ≠ "8_MACADRRWIFI" → registro ≠ "2_WiFi-AP-SSID"
          → d'.nvs.get registro = d.nvs.get registro)
      ∧ (servidor parse).Along (fun visitado p => (servir parse visitado p).fin ≠ .restart)
          d ps := by
  have preserved : ∀ visitado p siguiente, SinToken parse d.tokenHttser p
      → Conserva d visitado → (servidor parse).step visitado p = some siguiente
      → Conserva d siguiente :=
    fun _ _ _ sinP conserva h => servidor_conserva sinP conserva h
  refine ⟨?_, Machine.along_iff.mpr ?_⟩
  · have reached := servidor_run parse d ps
    have conserva := Machine.invariant_run_of_inputs preserved sin (.refl d) reached
    exact ⟨_, reached, conserva.log, fun registro mac ssid =>
      conserva.nvs registro (by simp [registrosVersion, mac, ssid])⟩
  · intro before p after same visitado reached
    subst same
    have conserva := Machine.invariant_run_of_inputs preserved
      (fun q member => sin q (List.mem_append_left _ member)) (.refl d) reached
    have sinP := sin p (by simp)
    rw [← conserva.token] at sinP
    exact (servir_sin_token sinP).2

/-- A request for the address and a setting under another token. -/
theorem sin_token_sin_cambios_ajeno
    : let dev := { Device.nueva with tokenHttser := some ['y'] }
      let peticiones : List Peticion := [.version, .conToken .trama 24
        [.timeout, .pieza "\x7b\"token\":\"x\",\"time\":\"5\"\x7d".toList [nul]]]
      (∃ d', (servidor (JsonText.parse atoi)).run dev peticiones = some d'
        ∧ d'.log = none
        ∧ ∀ registro, registro ≠ "8_MACADRRWIFI" → registro ≠ "2_WiFi-AP-SSID"
          → d'.nvs.get registro = none)
      ∧ (servidor (JsonText.parse atoi)).Along
          (fun visitado p => (servir (JsonText.parse atoi) visitado p).fin ≠ .restart)
          dev peticiones := by
  intro dev peticiones
  refine sin_token_sin_cambios (JsonText.parse atoi) dev peticiones ?_
  intro p member texto among
  rintro ⟨root, token, parsed, named, vigente⟩
  obtain rfl : ['y'] = token := Option.some.inj vigente
  rcases List.mem_pair.mp member with rfl | rfl
  · exact absurd among List.not_mem_nil
  · obtain rfl := List.mem_singleton.mp among
    obtain rfl : .object [("token".toList, .string ['x']), ("time".toList, .string ['5'])] = root :=
      Option.some.inj parsed
    exact absurd named (by decide)

end EspHttpControl.Http
