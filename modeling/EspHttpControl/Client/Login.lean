import EspHttpControl.CText.JsonText
import EspHttpControl.Client.EventHandler
import EspHttpControl.Http.Device
import EspHttpControl.Machines.Runs

/-! The login task of the HTTP client.
The response goes through a global buffer that outlives the attempt and is parsed whatever
became of the request, so an attempt can read what an earlier one left there.
-/

namespace EspHttpControl.Client

open CText Nvs Machines

/-- A frame that was sent: its address, its access token and its data. -/
structure Envio where
  url : Str
  accessToken : Option Str
  postData : Http.Doc
deriving DecidableEq, Repr

/-- A login that is sent: its address, its authorization and its data. -/
structure PeticionLogin where
  url : Str
  authorization : Str
  postData : Str
deriving DecidableEq, Repr

/-- The part of the card that the login task works on. -/
structure Cliente where
  estado : Nat
  nvs : Almacen
  localResponseBuffer : Buffer
  localResponseBuffer2 : Buffer
  outputLen : Nat
  /-- The frames that were sent. -/
  tramas : List Envio
  /-- The texts that were handed to `writelog`. -/
  registrados : List Str

def Cliente.arranque (nvs : Almacen) : Cliente :=
  {
    estado := 0
    nvs := nvs
    localResponseBuffer := Vector.replicate _ nul
    localResponseBuffer2 := Vector.replicate _ nul
    outputLen := 0
    tramas := []
    registrados := []
  }

/-- `leer_nvs`, which returns NULL for an entry that is missing. -/
def Cliente.leerNvs (c : Cliente) (registro : String) : Option Str := c.nvs.get registro

/-- The string in a buffer; without a terminator it would be read beyond the buffer. -/
def texto (buffer : Buffer) : Option Str :=
  if nul ∈ buffer then some (cstr buffer.toList) else none

/-- `trama_sensors` -/
def tramaSensors (webBuffer : Str) : Http.Doc := [
  ("user", "9LjcSDc+bgWwy4eKVJTVNlNxu/5ZtMom6/mOhx8nLg68pMxoZA3diJ6m04zeITzz".toList),
  ("type", "IAM_T".toList), ("trama", webBuffer)
]

/-- `httptrama(0)`: the frame is sent and the response is logged, whatever it is. A header whose
value is NULL is left out; a NULL address or timeout stops the task.
-/
def httptrama (c : Cliente) (webBuffer : Str) (i : Intento) : Option Cliente := do
  let url ← c.leerNvs "4_URL-TRAMA"
  let _ ← c.leerNvs "4_TIMEOUT-HTTP"
  let envio : Envio := ⟨url, c.leerNvs "4_TOKEN-TRAMA", tramaSensors webBuffer⟩
  let s ← perform ⟨c.outputLen, c.localResponseBuffer2⟩ i.eventos
  let registrado ← texto s.userData
  some { c with
    estado := 0
    localResponseBuffer2 := s.userData
    outputLen := s.outputLen
    tramas := c.tramas ++ [envio]
    registrados := c.registrados ++ [registrado] }

/-- What `http_rest_with_url` makes of a response. -/
inductive Veredicto
  | exito (token : Str)
  | rechazo
deriving DecidableEq, Repr

/-- The checks of `http_rest_with_url` on the parsed document; `none` when NULL is used. -/
def veredicto (root2 : Option Json) : Option Veredicto := do
  let root2 ← root2
  let status ← root2.getPath ["status"]
  let _ ← root2.getPath ["msg"]
  if status.valueint = 200 then
    let token ← root2.getPath ["body", "token"]
    let token ← token.valuestring
    some (.exito token)
  else some .rechazo

/-- The request of `http_rest_with_url`; an identity, an address or a timeout that is NULL stops
the task in front of it. `7_USER_ID` is only printed.
-/
def Cliente.peticionLogin (c : Cliente) : Option PeticionLogin := do
  let temp2 ← c.leerNvs "7_AHSN_BASE64"
  let url ← c.leerNvs "4_URL-LOGIN"
  let _ ← c.leerNvs "4_TIMEOUT-HTTP"
  some ⟨url, "Basic ".toList ++ temp2, "\x7b\"field1\":\"value1\"\x7d".toList⟩

/-- `http_rest_with_url` up to its test of `estado`. -/
def login (parse : Str → Option Json) (c : Cliente) (i : Intento) : Option Cliente := do
  let _ ← c.peticionLogin
  let s ← perform ⟨c.outputLen, c.localResponseBuffer⟩ i.eventos
  let respuesta ← texto s.userData
  let c := { c with localResponseBuffer := s.userData, outputLen := s.outputLen }
  match ← veredicto (parse respuesta) with
  | .exito token => some { c with nvs := grabarNvs c.nvs "4_TOKEN-TRAMA" token, estado := 1 }
  | .rechazo => some { c with estado := 0 }

/-- One round of the task: how its login and, if one is sent, its frame go, and what the web
buffer holds then.
-/
structure Vuelta where
  login : Intento
  trama : Intento
  webBuffer : Str

/-- `http_rest_with_url` -/
def httpRestWithUrl (parse : Str → Option Json) (c : Cliente) (v : Vuelta) : Option Cliente := do
  let c ← login parse c v.login
  if c.estado = 1 then httptrama c v.webBuffer v.trama else some c

/-- The token that the attempt's own response brings: the response is an object with status
200 and a token in its body.
-/
def Intento.token (parse : Str → Option Json) (i : Intento) : Option Str := do
  let root ← parse (cstr (← i.cuerpo))
  let status ← root.getPath ["status"]
  if status.valueint = 200 then root.stringAt ["body", "token"] else none

/-- The attempt counts exactly if its own response does: then the token is stored, `estado` is
1 where it is tested and a frame is sent; otherwise the storage stays and nothing is sent. The
task is alive in both cases.
-/
def Cuenta (parse : Str → Option Json) (c : Cliente) (v : Vuelta) : Prop :=
  ∃ tras final, login parse c v.login = some tras ∧ httpRestWithUrl parse c v = some final
    ∧ match v.login.token parse with
      | some token =>
        tras.estado = 1 ∧ final.nvs.get "4_TOKEN-TRAMA" = some token
        ∧ ∃ envio, envio.postData = tramaSensors v.webBuffer
          ∧ final.tramas = c.tramas ++ [envio]
      | none => tras.estado ≠ 1 ∧ final.nvs = c.nvs ∧ final.tramas = c.tramas

/-- The bytes of the request fit the buffer and leave a terminator in it. -/
def Cabe (buffer : Buffer) (i : Intento) : Prop :=
  i.copiado.length ≤ maxHttpOutputBuffer ∧ nul ∈ overlay buffer i.copiado

/-- What stands in the buffer after the attempt, its bytes over the old content, as
`http_rest_with_url` judges it.
-/
def juicio (parse : Str → Option Json) (c : Cliente) (i : Intento) : Option Veredicto :=
  veredicto (parse (cstr (overlay c.localResponseBuffer i.copiado).toList))

-----------------------------------------------------------------------------------------
-- Responses that are read as they came
-----------------------------------------------------------------------------------------

/-- The entries without which the task cannot send its requests. -/
def registrosCliente : List String :=
  ["7_AHSN_BASE64", "4_URL-LOGIN", "4_TIMEOUT-HTTP", "4_URL-TRAMA"]

/-- A body from which a document is read whatever bytes stand behind it, with a status and a
message and, behind status 200, a token.
-/
structure Inteligible (parse : Str → Option Json) (cuerpo : Str) (root : Json) : Prop where
  lee : ∀ detras, parse (cstr (cuerpo ++ detras)) = some root
  status : (root.getPath ["status"]).isSome
  msg : (root.getPath ["msg"]).isSome
  token : ∀ status ∈ root.getPath ["status"],
    status.valueint = 200 → (root.stringAt ["body", "token"]).isSome

/-- The document refuses the login. -/
def Rehusa (root : Json) : Prop := ∀ status ∈ root.getPath ["status"], status.valueint ≠ 200

/-- The attempt delivers a body that can be read, without chunks and short enough to leave the
last byte of the buffer.
-/
def Entera (parse : Str → Option Json) (root : Json) : Intento → Prop
  | .entrega false trozos =>
    trozos.flatten.length < maxHttpOutputBuffer ∧ Inteligible parse trozos.flatten root
  | _ => False

/-- The attempt leaves the buffer as it is, and its response, if there is one, grants nothing. -/
def Callada (parse : Str → Option Json) (i : Intento) : Prop :=
  i.copiado = [] ∧ i.token parse = none

section Attempt

variable {parse : Str → Option Json} {c : Cliente} {v : Vuelta}

/-- Reading the buffer behind a request goes on exactly if the request fits, with its bytes
over the old content.
-/
theorem perform_texto {α : Type} {buffer : Buffer} {i : Intento} {f : Salida → Str → Option α}
    {result : α}
    : ((perform ⟨0, buffer⟩ i.eventos).bind fun s => (texto s.userData).bind (f s)) = some result
      ↔ Cabe buffer i
        ∧ f ⟨0, overlay buffer i.copiado⟩ (cstr (overlay buffer i.copiado).toList)
          = some result := by
  rw [perform_intento, Cabe]
  by_cases room : i.copiado.length ≤ maxHttpOutputBuffer
  · rw [if_pos room, Option.bind_some, texto]
    by_cases ends : nul ∈ overlay buffer i.copiado
    · rw [if_pos ends, Option.bind_some]
      exact ⟨fun h => ⟨⟨room, ends⟩, h⟩, fun h => h.2⟩
    · rw [if_neg ends]
      exact ⟨nofun, fun h => absurd h.1.2 ends⟩
  · rw [if_neg room]
    exact ⟨nofun, fun h => absurd h.1.1 room⟩

/-- The task behind the test of the response. -/
def Cliente.tras (c : Cliente) (i : Intento) : Veredicto → Cliente
  | .exito token =>
    { c with
      localResponseBuffer := overlay c.localResponseBuffer i.copiado
      nvs := grabarNvs c.nvs "4_TOKEN-TRAMA" token
      estado := 1 }
  | .rechazo =>
    { c with
      localResponseBuffer := overlay c.localResponseBuffer i.copiado
      estado := 0 }

/-- The request is sent, its response fits, and what is read from the buffer is judged. -/
theorem login_iff {i : Intento} {tras : Cliente} (reset : c.outputLen = 0)
    : login parse c i = some tras
      ↔ c.peticionLogin ≠ none ∧ Cabe c.localResponseBuffer i
        ∧ ∃ dicho, juicio parse c i = some dicho ∧ tras = c.tras i dicho := by
  rw [login, reset]
  cases c.peticionLogin with
  | none => simp
  | some peticion =>
      simp only [ne_eq, reduceCtorEq, not_false_eq_true, true_and]
      refine perform_texto.trans (and_congr_right fun _ => ?_)
      rw [← juicio]
      cases juicio parse c i with
      | none => simp
      | some dicho => cases dicho <;> simp [Cliente.tras, reset, eq_comm]

/-- A frame is sent and its response logged exactly if its address and the timeout are stored and
the response fits; nothing else changes but `estado`.
-/
theorem httptrama_iff {webBuffer : Str} {i : Intento} {final : Cliente} (reset : c.outputLen = 0)
    : httptrama c webBuffer i = some final
      ↔ ∃ url, c.leerNvs "4_URL-TRAMA" = some url ∧ c.leerNvs "4_TIMEOUT-HTTP" ≠ none
        ∧ Cabe c.localResponseBuffer2 i
        ∧ final = { c with
            estado := 0
            localResponseBuffer2 := overlay c.localResponseBuffer2 i.copiado
            tramas := c.tramas ++ [⟨url, c.leerNvs "4_TOKEN-TRAMA", tramaSensors webBuffer⟩]
            registrados := c.registrados
              ++ [cstr (overlay c.localResponseBuffer2 i.copiado).toList] } := by
  rw [httptrama, reset]
  cases c.leerNvs "4_URL-TRAMA" with
  | none => simp
  | some url =>
      cases c.leerNvs "4_TIMEOUT-HTTP" with
      | none => simp
      | some timeout =>
          simp only [Option.some.injEq, exists_eq_left', ne_eq, reduceCtorEq, not_false_eq_true,
            true_and]
          refine perform_texto.trans (and_congr_right fun _ => ?_)
          rw [Option.some.injEq, eq_comm, ← reset]

/-- A round goes to its end behind a login that is judged, with a frame if it was granted. -/
theorem httpRestWithUrl_iff {final : Cliente} (reset : c.outputLen = 0)
    : httpRestWithUrl parse c v = some final
      ↔ c.peticionLogin ≠ none ∧ Cabe c.localResponseBuffer v.login
        ∧ ∃ dicho, juicio parse c v.login = some dicho
          ∧ match dicho with
            | .exito _ => httptrama (c.tras v.login dicho) v.webBuffer v.trama = some final
            | .rechazo => c.tras v.login dicho = final := by
  rw [httpRestWithUrl, Option.bind_eq_bind, Option.bind_eq_some_iff]
  constructor
  · intro goes
    obtain ⟨tras, entered, ended⟩ := goes
    obtain ⟨pide, cabe, dicho, judged, rfl⟩ := (login_iff reset).mp entered
    refine ⟨pide, cabe, dicho, judged, ?_⟩
    cases dicho with
    | exito token => exact ended
    | rechazo => exact Option.some.inj ended
  · intro goes
    obtain ⟨pide, cabe, dicho, judged, ended⟩ := goes
    refine ⟨c.tras v.login dicho, (login_iff reset).mpr ⟨pide, cabe, dicho, judged, rfl⟩, ?_⟩
    cases dicho with
    | exito token => exact ended
    | rechazo => exact congrArg some ended

/-- An attempt whose own response is refused counts as such exactly when its request is sent and
the login refuses what it reads.
-/
theorem cuenta_rechazo (reset : c.outputLen = 0) (own : v.login.token parse = none)
    : Cuenta parse c v
      ↔ c.peticionLogin ≠ none ∧ Cabe c.localResponseBuffer v.login
        ∧ juicio parse c v.login = some .rechazo := by
  constructor
  · intro holds
    rcases holds with ⟨tras, final, entered, -, outcome⟩
    rw [own] at outcome
    obtain ⟨pide, cabe, dicho, judged, same⟩ := (login_iff reset).mp entered
    cases dicho with
    | exito otro => exact absurd (by rw [same]; rfl) outcome.1
    | rechazo => exact ⟨pide, cabe, judged⟩
  · intro holds
    rcases holds with ⟨pide, cabe, judged⟩
    have entered := (login_iff reset).mpr ⟨pide, cabe, .rechazo, judged, rfl⟩
    have ended := (httpRestWithUrl_iff reset).mpr ⟨pide, cabe, .rechazo, judged, rfl⟩
    refine ⟨_, _, entered, ended, ?_⟩
    rw [own]
    exact ⟨Nat.zero_ne_one, rfl, rfl⟩

/-- An attempt whose own response grants a token counts as such if the login reads that token and
the frame can be sent. Witness: the frame is sent behind the login.
-/
theorem cuenta_exito {token url : Str} (reset : c.outputLen = 0)
    (own : v.login.token parse = some token) (pide : c.peticionLogin ≠ none)
    (cabe : Cabe c.localResponseBuffer v.login)
    (judged : juicio parse c v.login = some (.exito token))
    (urlTrama : c.nvs.get "4_URL-TRAMA" = some url) (timeout : c.nvs.get "4_TIMEOUT-HTTP" ≠ none)
    (cabe2 : Cabe c.localResponseBuffer2 v.trama)
    : Cuenta parse c v := by
  have entered := (login_iff reset).mpr ⟨pide, cabe, .exito token, judged, rfl⟩
  have len : (c.tras v.login (.exito token)).outputLen = 0 := reset
  have kept {registro : String} (other : registro ≠ "4_TOKEN-TRAMA")
      : (c.tras v.login (.exito token)).leerNvs registro = c.nvs.get registro :=
    Registers.Store.get_write_of_ne _ _ other
  obtain ⟨final, posted, stored, sent⟩ : ∃ final,
      httptrama (c.tras v.login (.exito token)) v.webBuffer v.trama = some final
      ∧ final.nvs = grabarNvs c.nvs "4_TOKEN-TRAMA" token
      ∧ ∃ envio, envio.postData = tramaSensors v.webBuffer
        ∧ final.tramas = c.tramas ++ [envio] :=
    ⟨_, (httptrama_iff len).mpr ⟨url, (kept (by decide)).trans urlTrama,
      by rwa [kept (by decide)], cabe2, rfl⟩, rfl, _, rfl, rfl⟩
  have ended := (httpRestWithUrl_iff reset).mpr ⟨pide, cabe, .exito token, judged, posted⟩
  refine ⟨_, final, entered, ended, ?_⟩
  rw [own, stored]
  exact ⟨rfl, c.nvs.get_write_self token (by decide), sent⟩

end Attempt

-----------------------------------------------------------------------------------------
-- The buffers
-----------------------------------------------------------------------------------------

/-- The buffer begins with the text and ends with a terminator. -/
def Guarda (buffer : Buffer) (cuerpo : Str) : Prop :=
  ∃ detras, buffer.toList = cuerpo ++ detras ++ [nul]

section Buffers

variable {buffer : Buffer} {cuerpo : Str}

theorem guarda_nil : Guarda (Vector.replicate _ nul) [] :=
  ⟨List.replicate (maxHttpOutputBuffer - 1) nul, by
    rw [Vector.toList_replicate, List.nil_append, ← List.replicate_succ']
    rfl⟩

/-- A text that is copied to the buffer takes the place of the other one. -/
theorem Guarda.overlay (guarda : Guarda buffer cuerpo) {copiado : Str}
    (room : copiado.length < maxHttpOutputBuffer)
    : Guarda (overlay buffer copiado) copiado := by
  obtain ⟨detras, content⟩ := guarda
  have size : (cuerpo ++ detras).length + 1 = maxHttpOutputBuffer := by
    have total := buffer.length_toList
    rwa [content, List.length_append, List.length_singleton] at total
  refine ⟨(cuerpo ++ detras).drop copiado.length, ?_⟩
  rw [toList_overlay_append (Nat.le_of_lt room), content,
    List.drop_append_of_le_length (by omega), List.append_assoc]

theorem Guarda.cabe (guarda : Guarda buffer cuerpo) {i : Intento}
    (room : i.copiado.length < maxHttpOutputBuffer)
    : Cabe buffer i := by
  obtain ⟨detras, content⟩ := guarda.overlay room
  refine ⟨Nat.le_of_lt room, Vector.mem_toList_iff.mp ?_⟩
  rw [content]
  exact List.mem_append_right _ List.mem_cons_self

/-- The document of a body that can be read is found in the buffer. -/
theorem Guarda.lee (guarda : Guarda buffer cuerpo) {parse : Str → Option Json} {root : Json}
    (legible : Inteligible parse cuerpo root)
    : parse (cstr buffer.toList) = some root := by
  obtain ⟨detras, content⟩ := guarda
  rw [content, List.append_assoc]
  exact legible.lee _

end Buffers

-----------------------------------------------------------------------------------------
-- The verdicts
-----------------------------------------------------------------------------------------

section Verdicts

variable {parse : Str → Option Json} {cuerpo : Str} {root : Json}

/-- What a document that can be read says to the login. -/
theorem Inteligible.veredicto (legible : Inteligible parse cuerpo root) {token : Option Str}
    (dicho : (do
      let status ← root.getPath ["status"]
      if status.valueint = 200 then root.stringAt ["body", "token"] else none) = token)
    : veredicto (some root) = some (token.elim .rechazo .exito) := by
  obtain ⟨-, status, msg, tokens⟩ := legible
  obtain ⟨status, found⟩ := Option.isSome_iff_exists.mp status
  obtain ⟨msg, told⟩ := Option.isSome_iff_exists.mp msg
  rw [Client.veredicto]
  simp only [found, told, Option.bind_eq_bind, Option.bind_some] at dicho ⊢
  split
  · next granted =>
    rw [if_pos granted] at dicho
    obtain ⟨text, read⟩ := Option.isSome_iff_exists.mp (tokens status found granted)
    rw [read] at dicho
    rw [Json.stringAt, Option.bind_eq_some_iff] at read
    obtain ⟨item, path, string⟩ := read
    rw [path, Option.bind_some, string, ← dicho]
    rfl
  · next refused =>
    rw [if_neg refused] at dicho
    rw [← dicho]
    rfl

/-- A refusal is read as one. -/
theorem Inteligible.rechazo (legible : Inteligible parse cuerpo root) (rehusa : Rehusa root)
    : Client.veredicto (some root) = some .rechazo := by
  obtain ⟨status, found⟩ := Option.isSome_iff_exists.mp legible.status
  refine @Inteligible.veredicto _ _ _ legible none ?_
  rw [found, Option.bind_eq_bind, Option.bind_some, if_neg (rehusa status found)]

end Verdicts

-----------------------------------------------------------------------------------------
-- Runs
-----------------------------------------------------------------------------------------

/-- The task between two attempts, behind the document that was delivered last. -/
structure Atento (parse : Str → Option Json) (anterior : Option Json) (c : Cliente) : Prop where
  reset : c.outputLen = 0
  guardados : ∀ registro ∈ registrosCliente, c.nvs.get registro ≠ none
  respuesta : ∃ cuerpo, Guarda c.localResponseBuffer cuerpo
    ∧ ∀ root ∈ anterior, Inteligible parse cuerpo root
  trama : ∃ cuerpo, Guarda c.localResponseBuffer2 cuerpo

section Runs

variable {parse : Str → Option Json} {c : Cliente} {v : Vuelta} {anterior : Option Json}

theorem Atento.pide (atento : Atento parse anterior c) : c.peticionLogin ≠ none := by
  have stored (registro : String) (known : registro ∈ registrosCliente)
      : ∃ valor, c.leerNvs registro = some valor :=
    Option.ne_none_iff_exists'.mp (atento.guardados registro known)
  obtain ⟨ahsn, first⟩ := stored "7_AHSN_BASE64" (by decide)
  obtain ⟨url, second⟩ := stored "4_URL-LOGIN" (by decide)
  obtain ⟨timeout, third⟩ := stored "4_TIMEOUT-HTTP" (by decide)
  rw [Cliente.peticionLogin, first, second, third]
  exact Option.some_ne_none _

/-- An attempt whose response reaches the buffer as it came counts as it says, by what it says. -/
theorem Atento.cuenta (atento : Atento parse anterior c) {dicho : Option Str}
    (own : v.login.token parse = dicho) (cabe : Cabe c.localResponseBuffer v.login)
    (judged : juicio parse c v.login = some (dicho.elim .rechazo .exito))
    (trama : dicho.isSome → v.trama.copiado.length < maxHttpOutputBuffer)
    : Cuenta parse c v := by
  cases dicho with
  | none => exact (cuenta_rechazo atento.reset own).mpr ⟨atento.pide, cabe, judged⟩
  | some token =>
      obtain ⟨url, address⟩ :=
        Option.ne_none_iff_exists'.mp (atento.guardados "4_URL-TRAMA" (by decide))
      obtain ⟨_, content⟩ := atento.trama
      exact cuenta_exito atento.reset own atento.pide cabe judged address
        (atento.guardados "4_TIMEOUT-HTTP" (by decide)) (content.cabe (trama rfl))

/-- A round that ends leaves the task between two attempts, behind what stands in the buffer. -/
theorem Atento.tras (atento : Atento parse anterior c) {root : Json}
    (respuesta : ∃ cuerpo, Guarda (overlay c.localResponseBuffer v.login.copiado) cuerpo
      ∧ Inteligible parse cuerpo root)
    (trama : ∀ token, juicio parse c v.login = some (.exito token)
      → v.trama.copiado.length < maxHttpOutputBuffer)
    {c' : Cliente} (ended : httpRestWithUrl parse c v = some c')
    : Atento parse (some root) c' := by
  obtain ⟨cuerpo, content, legible⟩ := respuesta
  have legible : ∀ leido ∈ some root, Inteligible parse cuerpo leido := by
    rintro leido ⟨⟩
    exact legible
  obtain ⟨pide, cabe, dicho, judged, ended⟩ := (httpRestWithUrl_iff atento.reset).mp ended
  cases dicho with
  | rechazo =>
      subst ended
      exact ⟨atento.reset, atento.guardados, ⟨cuerpo, content, legible⟩, atento.trama⟩
  | exito token =>
      have len : (c.tras v.login (.exito token)).outputLen = 0 := atento.reset
      obtain ⟨url, -, -, -, rfl⟩ := (httptrama_iff len).mp ended
      obtain ⟨_, content2⟩ := atento.trama
      refine ⟨atento.reset, fun registro known => ?_, ⟨cuerpo, content, legible⟩,
        ⟨_, content2.overlay (trama token judged)⟩⟩
      have other : registro ≠ "4_TOKEN-TRAMA" := by
        rintro rfl
        exact absurd known (by decide)
      have kept : (grabarNvs c.nvs "4_TOKEN-TRAMA" token).get registro = c.nvs.get registro :=
        Registers.Store.get_write_of_ne _ _ other
      exact kept.symm ▸ atento.guardados registro known

/-- A body that can be read takes the place of what stood in the buffer, and is judged as it says. -/
theorem Entera.leida {root : Json} {i : Intento} (entera : Entera parse root i) {cuerpo : Str}
    (content : Guarda c.localResponseBuffer cuerpo)
    : Cabe c.localResponseBuffer i
      ∧ juicio parse c i = some ((i.token parse).elim .rechazo .exito)
      ∧ Guarda (overlay c.localResponseBuffer i.copiado) i.copiado
      ∧ Inteligible parse i.copiado root := by
  match i, entera with
  | .entrega false trozos, ⟨room, legible⟩ =>
    have content' : Guarda (overlay c.localResponseBuffer trozos.flatten) trozos.flatten :=
      content.overlay room
    refine ⟨content.cabe room, ?_, content', legible⟩
    have own : (Intento.entrega false trozos).token parse = (do
        let status ← root.getPath ["status"]
        if status.valueint = 200 then root.stringAt ["body", "token"] else none) := by
      have read := legible.lee []
      rw [List.append_nil] at read
      rw [Intento.token, Intento.cuerpo]
      simp only [Option.bind_eq_bind, Option.bind_some, read]
    rw [juicio, Intento.copiado, content'.lee legible]
    exact legible.veredicto own.symm

/-- An attempt that delivers a body that can be read. -/
theorem Atento.entera (atento : Atento parse anterior c) {root : Json}
    (entera : Entera parse root v.login)
    (trama : (v.login.token parse).isSome → v.trama.copiado.length < maxHttpOutputBuffer)
    : Cuenta parse c v
      ∧ ∀ c', httpRestWithUrl parse c v = some c' → Atento parse (some root) c' := by
  obtain ⟨cuerpo, content, -⟩ := atento.respuesta
  obtain ⟨cabe, judged, content', legible⟩ := entera.leida content
  refine ⟨atento.cuenta rfl cabe judged trama, fun c' ended => ?_⟩
  refine atento.tras ⟨_, content', legible⟩ (fun token granted => trama ?_) ended
  rw [judged] at granted
  cases own : v.login.token parse with
  | none => rw [own] at granted; cases granted
  | some token => rfl

/-- The buffer holds a document that refused a login. -/
def Rehusado (parse : Str → Option Json) (buffer : Buffer) : Prop :=
  ∃ cuerpo root, Guarda buffer cuerpo ∧ Inteligible parse cuerpo root ∧ Rehusa root

/-- An attempt that delivers nothing reads the refusal again. -/
theorem Callada.leida {i : Intento} (callada : Callada parse i)
    (rehusado : Rehusado parse c.localResponseBuffer)
    : Cabe c.localResponseBuffer i
      ∧ juicio parse c i = some ((i.token parse).elim .rechazo .exito)
      ∧ overlay c.localResponseBuffer i.copiado = c.localResponseBuffer := by
  obtain ⟨cuerpo, root, content, legible, rehusa⟩ := rehusado
  obtain ⟨empty, own⟩ := callada
  have same : overlay c.localResponseBuffer i.copiado = c.localResponseBuffer := by
    rw [empty, overlay_nil]
  refine ⟨content.cabe (by rw [empty]; decide), ?_, same⟩
  rw [juicio, same, content.lee legible, own]
  exact legible.rechazo rehusa

/-- An attempt that delivers nothing, behind a refusal. -/
theorem Atento.callada {root : Json} (atento : Atento parse (some root) c)
    (callada : Callada parse v.login) (rehusa : Rehusa root)
    : Cuenta parse c v
      ∧ ∀ c', httpRestWithUrl parse c v = some c' → Atento parse (some root) c' := by
  obtain ⟨cuerpo, content, legible⟩ := atento.respuesta
  have legible := legible root rfl
  obtain ⟨cabe, judged, same⟩ := callada.leida ⟨cuerpo, root, content, legible, rehusa⟩
  refine ⟨atento.cuenta callada.2 cabe (callada.2 ▸ judged) nofun, fun c' ended => ?_⟩
  refine atento.tras ⟨cuerpo, by rwa [same], legible⟩ (fun token granted => ?_) ended
  rw [judged, callada.2] at granted
  cases granted

end Runs

theorem atento_arranque {parse : Str → Option Json} {nvs : Almacen}
    (guardados : ∀ registro ∈ registrosCliente, nvs.get registro ≠ none)
    : Atento parse none (Cliente.arranque nvs) :=
  ⟨rfl, guardados, ⟨[], guarda_nil, nofun⟩, ⟨[], guarda_nil⟩⟩

/-- A response that grants the token `t`. -/
def concedida : Str :=
  "\x7b\"status\":200,\"msg\":\"\",\"body\":\x7b\"token\":\"t\"\x7d\x7d".toList

/-- A response that refuses the login. -/
def rehusada : Str := "\x7b\"status\":401,\"msg\":\"\"\x7d".toList

theorem inteligible_concedida
    : Inteligible (JsonText.parse atoi) concedida
        (.object [("status".toList, .number 200), ("msg".toList, .string []),
          ("body".toList, .object [("token".toList, .string ['t'])])]) where
  lee := JsonText.parse_cstr_done (by decide +kernel) rfl
  status := rfl
  msg := rfl
  token _ _ _ := rfl

/-- A card that stores the entries of its requests. -/
def conEntradas : Almacen :=
  Registers.Store.empty.writeAll [
    ("7_AHSN_BASE64", "OjAyMGEwMDAw".toList), ("4_URL-LOGIN", "https://atsdev".toList),
    ("4_TIMEOUT-HTTP", "8000".toList), ("4_URL-TRAMA", "https://atsdev".toList)
  ]

theorem guardados_conEntradas : ∀ registro ∈ registrosCliente, conEntradas.get registro ≠ none := by
  decide +kernel

end EspHttpControl.Client
