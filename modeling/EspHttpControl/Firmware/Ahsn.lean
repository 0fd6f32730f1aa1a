import EspHttpControl.Firmware.Cifrado
import EspHttpControl.Firmware.Identidad

/-! The identity exchange with its buffers.
`request_and_store_ahsn` builds each of its texts in a buffer of a fixed size. A text that does not
fit there, or a token that is not there, leaves its behaviour undefined.
-/

namespace EspHttpControl.Firmware

open CText Nvs Http Serial

/-- The sizes of the buffers of `request_and_store_ahsn`. -/
structure Buffers where
  dataAsString : Nat
  macEsp : Nat
  ahsn : Nat
  base64OutputSize : Nat

def Buffers.declarados : Buffers := ⟨60, 24, 33, 65⟩

inductive Fallo
  | desborde | nullPointer
deriving DecidableEq, Repr

/-- A text that a buffer holds, with its terminator. -/
def escrito (size : Nat) (texto : Str) : Except Fallo Str :=
  if texto.length < size then .ok texto else .error .desborde

/-- `mbedtls_base64_encode` into `dlen` bytes, and the length that it reports, which is that of the
text without its terminator. Without enough room nothing is written, so that the buffer holds no
text at all.
-/
def base64EnBuffer (x : Externo) (dlen : Nat) (src : Str) : Except Fallo (Str × Nat) := do
  let texto ← escrito dlen (x.base64Encode src)
  return (texto, texto.length)

/-- `encrypt_any_length_string` with the size of its output buffer, which it replaces by the length
of the output.
-/
def encryptEnBuffer (x : Externo) (input key iv : Str) (base64Len : Nat)
    : Except Fallo (Str × Nat) :=
  base64EnBuffer x base64Len (x.aesCryptCbc key iv (paddedInput input))

/-- How every serial starts. -/
def actionTracker : Str := ":020a0000".toList

/-- `request_and_store_ahsn` behind the extraction of the number of the STM. -/
def guardaAhsn (x : Externo) (buffers : Buffers) (mac : Vector UInt8 6) (stm32Id : Str)
    (nvs : Almacen)
    : Except Fallo (EspErr × Almacen) := do
  let mac ← escrito buffers.macEsp (macEsp mac)
  let mac ← escrito buffers.macEsp (mac ++ stm32Id)
  let ahsn ← escrito buffers.ahsn actionTracker
  let ahsn ← escrito buffers.ahsn (ahsn ++ mac)
  let nvs := writexNvs nvs "7_SERIAL_ID" ahsn
  let (encryptedAhsn, base64Len) ← encryptEnBuffer x ahsn encKey encIv buffers.base64OutputSize
  -- the second output is bounded by the length of the first one
  let (ahsnBase64, _) ← base64EnBuffer x base64Len ahsn
  let nvs := writexNvs nvs "7_USER_ID" encryptedAhsn
  return (.espOk, writexNvs nvs "7_AHSN_BASE64" ahsnBase64)

/-- `request_and_store_ahsn` on the answer to its second request, if one came. -/
def solicitaAhsn (x : Externo) (buffers : Buffers) (mac : Vector UInt8 6)
    (respuesta : Option (List Char)) (nvs : Almacen)
    : Except Fallo (EspErr × Almacen) :=
  let cleanup := .ok (.espFail, writexNvs nvs "7_STATUS-MATR" "0".toList)
  match respuesta with
  | none => cleanup
  | some data => do
    let dataAsString ← escrito buffers.dataAsString (cstr data)
    if ¬(['p', '-', 'd', 'm'].all dataAsString.contains) then cleanup
    else
      match (strtok ['m'] (strtok ['d'] (some dataAsString)).2).1 with
      | none => .error .nullPointer
      | some stm32Id =>
        if stm32Id.length ≠ 16 then cleanup
        else guardaAhsn x buffers mac stm32Id nvs

/-- The serial of a device. -/
def serialDe (mac : Vector UInt8 6) (stm32Id : Str) : Str :=
  actionTracker ++ (macEsp mac ++ stm32Id)

-----------------------------------------------------------------------------------------
-- Texts of fixed width
-----------------------------------------------------------------------------------------

/-- `%02hhx` -/
def hex2 (byte : UInt8) : Str :=
  List.replicate (2 - (Nat.toDigits 16 byte.toNat).length) '0' ++ Nat.toDigits 16 byte.toNat

/-- The number that two hexadecimal digits stand for. -/
def deHex (digits : Str) : Nat :=
  digits.foldl (fun n c => n * 16 + "0123456789abcdef".toList.idxOf c) 0

theorem hex2_table
    : ∀ n < 256,
        (hex2 (UInt8.ofNat n)).length = 2
        ∧ deHex (hex2 (UInt8.ofNat n)) = n
        ∧ (hex2 (UInt8.ofNat n)).all "0123456789abcdef".toList.contains = true := by
  decide +kernel

theorem length_hex2 (byte : UInt8) : (hex2 byte).length = 2 := by
  have entry := (hex2_table byte.toNat byte.toNat_lt).1
  rwa [UInt8.ofNat_toNat] at entry

theorem deHex_hex2 (byte : UInt8) : deHex (hex2 byte) = byte.toNat := by
  have entry := (hex2_table byte.toNat byte.toNat_lt).2.1
  rwa [UInt8.ofNat_toNat] at entry

theorem hex2_digits (byte : UInt8) : ∀ c ∈ hex2 byte, c ∈ "0123456789abcdef".toList := by
  have entry := (hex2_table byte.toNat byte.toNat_lt).2.2
  rw [UInt8.ofNat_toNat, List.all_eq_true] at entry
  exact fun c member => List.contains_iff_mem.mp (entry c member)

theorem hex2_injective {byte other : UInt8} (same : hex2 byte = hex2 other) : byte = other := by
  rw [← UInt8.toNat_inj, ← deHex_hex2, ← deHex_hex2, same]

theorem macEsp_eq (mac : Vector UInt8 6)
    : macEsp mac = hex2 mac[2] ++ (hex2 mac[3] ++ (hex2 mac[4] ++ hex2 mac[5])) := by
  obtain ⟨⟨bytes⟩, size⟩ := mac
  rcases bytes with _ | ⟨a, _ | ⟨b, _ | ⟨c, _ | ⟨d, _ | ⟨e, _ | ⟨f, _ | ⟨g, rest⟩⟩⟩⟩⟩⟩⟩ <;>
    simp at size
  exact congrArg (fun last => hex2 c ++ (hex2 d ++ (hex2 e ++ last))) (List.append_nil (hex2 f))

theorem length_macEsp (mac : Vector UInt8 6) : (macEsp mac).length = 8 := by
  simp [macEsp_eq, length_hex2]

/-- The parts of a serial have fixed widths, so that they can be told apart. -/
theorem serialDe_injective {mac otra : Vector UInt8 6} {id otro : Str}
    (same : serialDe mac id = serialDe otra otro)
    : (mac[2] = otra[2] ∧ mac[3] = otra[3] ∧ mac[4] = otra[4] ∧ mac[5] = otra[5]) ∧ id = otro := by
  rw [serialDe, serialDe] at same
  obtain ⟨macs, ids⟩ := List.append_inj (List.append_cancel_left same)
    (by rw [length_macEsp, length_macEsp])
  rw [macEsp_eq, macEsp_eq] at macs
  obtain ⟨two, macs⟩ := List.append_inj macs (by rw [length_hex2, length_hex2])
  obtain ⟨three, macs⟩ := List.append_inj macs (by rw [length_hex2, length_hex2])
  obtain ⟨four, five⟩ := List.append_inj macs (by rw [length_hex2, length_hex2])
  exact ⟨⟨hex2_injective two, hex2_injective three, hex2_injective four, hex2_injective five⟩, ids⟩

theorem length_serialDe (mac : Vector UInt8 6) (id : Str)
    : (serialDe mac id).length = 17 + id.length := by
  rw [serialDe, List.length_append, List.length_append, length_macEsp]
  have nine : actionTracker.length = 9 := by
    decide
  omega

theorem serialDe_octetos {id : Str} (octetos : Octetos id) (mac : Vector UInt8 6)
    : Octetos (serialDe mac id) := by
  have digits : Octetos "0123456789abcdef".toList := by
    decide
  have fixed : Octetos actionTracker := by
    decide
  intro c member
  rw [serialDe, List.mem_append, List.mem_append, macEsp_eq] at member
  rcases member with inside | inside | inside
  · exact fixed c inside
  · simp only [List.mem_append] at inside
    rcases inside with two | three | four | five
    · exact digits c (hex2_digits _ c two)
    · exact digits c (hex2_digits _ c three)
    · exact digits c (hex2_digits _ c four)
    · exact digits c (hex2_digits _ c five)
  · exact octetos c inside

-----------------------------------------------------------------------------------------
-- What the exchange does
-----------------------------------------------------------------------------------------

theorem escrito_ok_iff {size : Nat} {texto otro : Str}
    : escrito size texto = .ok otro ↔ texto.length < size ∧ texto = otro := by
  rw [escrito]
  split
  · next fits => simp [fits]
  · next long => simp [long]

theorem escrito_eq {size : Nat} {texto : Str} (fits : texto.length < size)
    : escrito size texto = .ok texto :=
  if_pos fits

/-- The entries that are written for a number of the STM. -/
def entradas (x : Externo) (ahsn : Str) : List (String × Str) :=
  [("7_SERIAL_ID", ahsn), ("7_USER_ID", encryptAnyLengthString x ahsn encKey encIv),
    ("7_AHSN_BASE64", x.base64Encode ahsn)]

theorem writeAll_entradas (x : Externo) (ahsn : Str) (nvs : Almacen)
    : nvs.writeAll (entradas x ahsn)
      = writexNvs (writexNvs (writexNvs nvs "7_SERIAL_ID" ahsn) "7_USER_ID"
          (encryptAnyLengthString x ahsn encKey encIv)) "7_AHSN_BASE64" (x.base64Encode ahsn) := by
  rw [entradas, Registers.Store.writeAll, List.foldl_cons, List.foldl_cons, List.foldl_cons,
    List.foldl_nil, writexNvs, writexNvs, writexNvs]

/-- Every text of the storing half fits into its buffer. -/
structure Caben (x : Externo) (buffers : Buffers) (mac : Vector UInt8 6) (stm32Id : Str) : Prop where
  macEsp : 8 + stm32Id.length < buffers.macEsp
  ahsn : 17 + stm32Id.length < buffers.ahsn
  userId :
    (encryptAnyLengthString x (serialDe mac stm32Id) encKey encIv).length < buffers.base64OutputSize
  base64 :
    (x.base64Encode (serialDe mac stm32Id)).length
      < (encryptAnyLengthString x (serialDe mac stm32Id) encKey encIv).length

section Guarda

variable {x : Externo} {buffers : Buffers} {mac : Vector UInt8 6} {stm32Id : Str} {nvs : Almacen}

/-- Where the storing half ends, its texts fit, one after another. -/
theorem caben_of_guardaAhsn {resultado : EspErr × Almacen}
    (ended : guardaAhsn x buffers mac stm32Id nvs = .ok resultado)
    : Caben x buffers mac stm32Id
      ∧ resultado = (.espOk, nvs.writeAll (entradas x (serialDe mac stm32Id))) := by
  have width := length_macEsp mac
  have serial := length_serialDe mac stm32Id
  obtain ⟨hex, first, ended⟩ := ok_of_bind ended
  obtain ⟨-, rfl⟩ := escrito_ok_iff.mp first
  obtain ⟨whole, second, ended⟩ := ok_of_bind ended
  obtain ⟨macFits, rfl⟩ := escrito_ok_iff.mp second
  obtain ⟨header, third, ended⟩ := ok_of_bind ended
  obtain ⟨-, rfl⟩ := escrito_ok_iff.mp third
  obtain ⟨ahsn, fourth, ended⟩ := ok_of_bind ended
  obtain ⟨ahsnFits, rfl⟩ := escrito_ok_iff.mp fourth
  obtain ⟨cipher, fifth, ended⟩ := ok_of_bind ended
  obtain ⟨texto, encoded, fifth⟩ := ok_of_bind fifth
  obtain ⟨userFits, rfl⟩ := escrito_ok_iff.mp encoded
  obtain rfl := Except.ok.inj fifth
  obtain ⟨plain, sixth, ended⟩ := ok_of_bind ended
  obtain ⟨texto, encoded, sixth⟩ := ok_of_bind sixth
  obtain ⟨base64Fits, rfl⟩ := escrito_ok_iff.mp encoded
  obtain rfl := Except.ok.inj sixth
  obtain rfl := Except.ok.inj ended
  refine ⟨⟨?_, ?_, userFits, base64Fits⟩, ?_⟩
  rotate_left 2
  · rw [writeAll_entradas]
    rfl
  · rwa [List.length_append, width] at macFits
  · rwa [← serial]

/-- Where its texts fit, the storing half writes three entries. -/
theorem guardaAhsn_of_caben (caben : Caben x buffers mac stm32Id)
    : guardaAhsn x buffers mac stm32Id nvs
      = .ok (.espOk, nvs.writeAll (entradas x (serialDe mac stm32Id))) := by
  have nine : actionTracker.length = 9 := by
    decide
  have width := length_macEsp mac
  have serial := length_serialDe mac stm32Id
  have macFits : (macEsp mac ++ stm32Id).length < buffers.macEsp := by
    rw [List.length_append, width]
    exact caben.macEsp
  have ahsnFits : (actionTracker ++ (macEsp mac ++ stm32Id)).length < buffers.ahsn := by
    rw [← serialDe, serial]
    exact caben.ahsn
  have cipher : encryptEnBuffer x (serialDe mac stm32Id) encKey encIv buffers.base64OutputSize
      = .ok (encryptAnyLengthString x (serialDe mac stm32Id) encKey encIv,
        (encryptAnyLengthString x (serialDe mac stm32Id) encKey encIv).length) := by
    have fits := escrito_eq caben.userId
    rw [encryptAnyLengthString] at fits ⊢
    rw [encryptEnBuffer, base64EnBuffer, fits]
    rfl
  have plain : base64EnBuffer x
        (encryptAnyLengthString x (serialDe mac stm32Id) encKey encIv).length
        (serialDe mac stm32Id)
      = .ok (x.base64Encode (serialDe mac stm32Id),
        (x.base64Encode (serialDe mac stm32Id)).length) := by
    rw [base64EnBuffer, escrito_eq caben.base64]
    rfl
  have header : escrito buffers.ahsn actionTracker = .ok actionTracker := by
    have room := caben.ahsn
    exact escrito_eq (by omega)
  have hex : escrito buffers.macEsp (macEsp mac) = .ok (macEsp mac) := by
    have room := caben.macEsp
    exact escrito_eq (by omega)
  rw [guardaAhsn, hex, header, writeAll_entradas]
  simp only [bind, Except.bind]
  rw [escrito_eq macFits]
  dsimp only
  rw [escrito_eq ahsnFits]
  dsimp only
  rw [← serialDe, cipher]
  dsimp only
  rw [plain]
  rfl

/-- The storing half goes well exactly if all fits, and then writes three entries. -/
theorem guardaAhsn_ok_iff {resultado : EspErr × Almacen}
    : guardaAhsn x buffers mac stm32Id nvs = .ok resultado
      ↔ Caben x buffers mac stm32Id
        ∧ resultado = (.espOk, nvs.writeAll (entradas x (serialDe mac stm32Id))) := by
  constructor
  · exact caben_of_guardaAhsn
  · rintro ⟨caben, rfl⟩
    exact guardaAhsn_of_caben caben

end Guarda

-----------------------------------------------------------------------------------------
-- The answer of the STM
-----------------------------------------------------------------------------------------

/-- The number of the STM in an answer: what stands between the first `d` behind something else and
the next `m`, with no `m` in front; empty if there is none.
-/
def idDe (payload : Str) : Str := firstRun ['m'] (afterRun ['d'] payload)

/-- The answer holds the four letters that are looked for. -/
def ConLetras (payload : Str) : Prop := ∀ letra ∈ ['p', '-', 'd', 'm'], letra ∈ payload

instance (payload : Str) : Decidable (ConLetras payload) := List.decidableBAll _ _

theorem all_letras (payload : Str)
    : (['p', '-', 'd', 'm'].all payload.contains) = true ↔ ConLetras payload := by
  simp [ConLetras]

theorem strtok_idDe (payload : Str)
    : (strtok ['m'] (strtok ['d'] (some payload)).2).1
      = if idDe payload = [] then none else some (idDe payload) := by
  rw [strtok_snd, strtok_fst, idDe]

/-- What the exchange does with an answer, by its length, its letters and its number. -/
theorem solicitaAhsn_data (x : Externo) (buffers : Buffers) (mac : Vector UInt8 6)
    (data : List Char) (nvs : Almacen)
    : solicitaAhsn x buffers mac (some data) nvs
      = if buffers.dataAsString ≤ (cstr data).length then .error .desborde
        else if ¬ConLetras (cstr data) then
          .ok (.espFail, writexNvs nvs "7_STATUS-MATR" "0".toList)
        else if idDe (cstr data) = [] then .error .nullPointer
        else if (idDe (cstr data)).length ≠ 16 then
          .ok (.espFail, writexNvs nvs "7_STATUS-MATR" "0".toList)
        else guardaAhsn x buffers mac (idDe (cstr data)) nvs := by
  rw [solicitaAhsn]
  by_cases long : buffers.dataAsString ≤ (cstr data).length
  · rw [if_pos long, escrito, if_neg (Nat.not_lt.mpr long)]
    rfl
  · rw [if_neg long, escrito_eq (Nat.lt_of_not_le long)]
    simp only [bind, Except.bind]
    rw [strtok_idDe]
    by_cases none' : idDe (cstr data) = []
    · rw [if_pos none', if_pos none']
      simp only [all_letras]
    · rw [if_neg none', if_neg none']
      simp only [all_letras]

theorem requestAndStoreAhsn_data (x : Externo) (mac : Vector UInt8 6) (data : List Char)
    (nvs : Almacen)
    : requestAndStoreAhsn x mac (some data) nvs
      = if ¬ConLetras (cstr data) then (writexNvs nvs "7_STATUS-MATR" "0".toList, .fail)
        else if idDe (cstr data) = [] then (nvs, .nullPointer)
        else if (idDe (cstr data)).length ≠ 16 then
          (writexNvs nvs "7_STATUS-MATR" "0".toList, .fail)
        else (nvs.writeAll (entradas x (serialDe mac (idDe (cstr data)))), .ok) := by
  rw [requestAndStoreAhsn, strtok_idDe]
  by_cases none' : idDe (cstr data) = []
  · rw [if_pos none', if_pos none']
    simp only [all_letras]
  · rw [if_neg none', if_neg none']
    simp only [all_letras]
    rw [List.append_assoc, writeAll_entradas]
    rfl

/-- Where the exchange stays inside its buffers it is the one of the whole card. -/
theorem requestAndStoreAhsn_eq {x : Externo} {buffers : Buffers} {mac : Vector UInt8 6}
    {respuesta : Option (List Char)} {nvs nvs' : Almacen} {err : EspErr}
    (ended : solicitaAhsn x buffers mac respuesta nvs = .ok (err, nvs'))
    : requestAndStoreAhsn x mac respuesta nvs
      = (nvs', if err = .espOk then Fin.ok else Fin.fail) := by
  cases respuesta with
  | none =>
      obtain ⟨rfl, rfl⟩ := Prod.mk.inj (Except.ok.inj ended)
      rfl
  | some data =>
      rw [solicitaAhsn_data] at ended
      rw [requestAndStoreAhsn_data]
      split at ended
      · cases ended
      · split at ended
        · next sin =>
          obtain ⟨rfl, rfl⟩ := Prod.mk.inj (Except.ok.inj ended)
          rw [if_pos sin]
          rfl
        · next con =>
          rw [if_neg con]
          split at ended
          · cases ended
          · next some' =>
            rw [if_neg some']
            split at ended
            · next short =>
              obtain ⟨rfl, rfl⟩ := Prod.mk.inj (Except.ok.inj ended)
              rw [if_pos short]
              rfl
            · next exact' =>
              obtain ⟨rfl, rfl⟩ := Prod.mk.inj (guardaAhsn_ok_iff.mp ended).2
              rw [if_neg exact']
              rfl

-----------------------------------------------------------------------------------------
-- Buffers and refusals
-----------------------------------------------------------------------------------------

/-- What should hold of every answer: its texts stay inside their buffers, no NULL token is used,
and one without a number of 16 characters is refused, with the identity untouched.
-/
structure Limpio (x : Externo) (mac : Vector UInt8 6) (data : List Char) (nvs : Almacen) : Prop where
  sinFallo : ∃ resultado, solicitaAhsn x .declarados mac (some data) nvs = .ok resultado
  rehusa :
    ¬(ConLetras (cstr data) ∧ (idDe (cstr data)).length = 16)
    → ∃ nvs',
        solicitaAhsn x .declarados mac (some data) nvs = .ok (.espFail, nvs')
        ∧ nvs'.get "7_STATUS-MATR" = some ['0']
        ∧ ∀ registro ∈ registrosIdentidad, nvs'.get registro = nvs.get registro

/-- The answer is short, and lacks a letter or has a number of another length. -/
def Rehusable (payload : Str) : Prop :=
  payload.length < 60
  ∧ (ConLetras payload → idDe payload ≠ [] ∧ (idDe payload).length ≠ 16)

/-- A refusal writes the status only. -/
theorem cleanup_identidad (nvs : Almacen)
    : (writexNvs nvs "7_STATUS-MATR" "0".toList).get "7_STATUS-MATR" = some ['0']
      ∧ ∀ registro ∈ registrosIdentidad,
          (writexNvs nvs "7_STATUS-MATR" "0".toList).get registro = nvs.get registro := by
  constructor
  · exact nvs.get_write_self _ (by decide)
  · intro registro member
    refine nvs.get_write_of_ne _ ?_
    rintro rfl
    exact absurd member (by decide)

/-- Without a fault the answer is one that is refused: a number of the right length fills `mac_esp`
up to its last byte.
-/
theorem rehusable_of_ok {x : Externo} {mac : Vector UInt8 6} {data : List Char} {nvs : Almacen}
    {resultado : EspErr × Almacen}
    (ended : solicitaAhsn x .declarados mac (some data) nvs = .ok resultado)
    : Rehusable (cstr data) := by
  have size : Buffers.declarados.dataAsString = 60 := rfl
  rw [solicitaAhsn_data] at ended
  split at ended
  · cases ended
  · next short =>
    refine ⟨by omega, fun letras => ?_⟩
    rw [if_neg (not_not.mpr letras)] at ended
    split at ended
    · cases ended
    · next some' =>
      refine ⟨some', fun exact' => ?_⟩
      rw [if_neg (not_not.mpr exact')] at ended
      have fits := (guardaAhsn_ok_iff.mp ended).1.macEsp
      have declared : Buffers.declarados.macEsp = 24 := rfl
      omega

theorem solicitaAhsn_rehusa {data : List Char} (rehusable : Rehusable (cstr data)) (x : Externo)
    (mac : Vector UInt8 6) (nvs : Almacen)
    : solicitaAhsn x .declarados mac (some data) nvs
      = .ok (.espFail, writexNvs nvs "7_STATUS-MATR" "0".toList) := by
  obtain ⟨short, refused⟩ := rehusable
  have size : Buffers.declarados.dataAsString = 60 := rfl
  rw [solicitaAhsn_data, if_neg (by omega)]
  by_cases letras : ConLetras (cstr data)
  · obtain ⟨some', other⟩ := refused letras
    rw [if_neg (not_not.mpr letras), if_neg some', if_pos other]
  · rw [if_pos letras]

/-- The exchange stays inside its buffers and refuses cleanly exactly on short answers that it
refuses; the serial of an answer that it takes does not fit. Witness: `solicitaAhsn_rehusa`.
-/
theorem solicitaAhsn_limpio_iff (x : Externo) (mac : Vector UInt8 6) (data : List Char)
    (nvs : Almacen)
    : Limpio x mac data nvs ↔ Rehusable (cstr data) := by
  constructor
  · rintro ⟨⟨resultado, ended⟩, -⟩
    exact rehusable_of_ok ended
  · intro rehusable
    have ended := solicitaAhsn_rehusa rehusable x mac nvs
    exact ⟨⟨_, ended⟩, fun _ => ⟨_, ended, cleanup_identidad nvs⟩⟩

/-- A number of the right length, behind which `mac_esp` has no room for a terminator. -/
theorem solicitaAhsn_no_limpio
    : ¬∀ (x : Externo) (mac : Vector UInt8 6) (bytes : List Char) (nvs : Almacen),
        1 ≤ bytes.length → bytes.length ≤ 1024 → Limpio x mac (bytes ++ [nul]) nvs := by
  intro claim
  obtain ⟨⟨resultado, ended⟩, -⟩ := claim conCambio (Vector.replicate 6 0)
    "p1-2d3630343733a55148m3".toList .empty (by decide) (by decide)
  exact ((rehusable_of_ok ended).2 (by decide)).2 (by decide)

end EspHttpControl.Firmware
