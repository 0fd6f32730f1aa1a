import EspHttpControl.Firmware.Ahsn

/-! The identity that an answer of the STM leads to.
The serial of a device is put together from the address of its network and the number of its STM;
it is stored as it is, encoded, and encrypted and encoded.
-/

namespace EspHttpControl.Firmware

open CText Nvs Serial

/-- Base64 and its inverse. -/
structure Base64 (x : Externo) (decodifica : Str → Option Str) : Prop where
  largo : ∀ bytes,
    Octetos bytes → (x.base64Encode bytes).length = 4 * ((bytes.length + 2) / 3)
  inverso : ∀ bytes, Octetos bytes → decodifica (x.base64Encode bytes) = some bytes

/-- The answer `p<a>-<b>d<id>m<n>`. -/
def respuestaDe (a b id n : Str) : Str :=
  'p' :: (a ++ '-' :: (b ++ 'd' :: (id ++ 'm' :: n)))

/-- The number is found behind the first `d`, whatever letters it holds. -/
theorem idDe_respuestaDe {a b id : Str} (digitos : ∀ c ∈ a ++ b, c.isDigit = true)
    (nonempty : id ≠ []) (free : 'm' ∉ id) (n : Str)
    : idDe (respuestaDe a b id n) = id := by
  have digit {c : Char} (member : c ∈ a ++ b) : (['d'].contains c) = false := by
    by_contra found
    obtain rfl : c = 'd' := by simpa using found
    exact absurd (digitos 'd' member) (by decide)
  have first : ∀ c ∈ 'p' :: (a ++ '-' :: b), ['d'].contains c = false := by
    intro c member
    simp only [List.mem_cons, List.mem_append] at member
    rcases member with rfl | inA | rfl | inB
    · rfl
    · exact digit (List.mem_append_left _ inA)
    · rfl
    · exact digit (List.mem_append_right _ inB)
  have second : ∀ c ∈ id, ['m'].contains c = false := by
    intro c member
    simpa using fun same : c = 'm' => free (same ▸ member)
  have parts : respuestaDe a b id n = 'p' :: (a ++ '-' :: b) ++ 'd' :: (id ++ 'm' :: n) := by
    simp [respuestaDe]
  have token : (strtok ['m'] (strtok ['d'] (some (respuestaDe a b id n))).2).1 = some id := by
    rw [parts, strtok_run (List.cons_ne_nil _ _) first rfl, strtok_run nonempty second rfl]
  rw [strtok_idDe] at token
  exact Option.some.inj (Option.ite_none_left_eq_some.mp token).2

theorem nul_not_mem_respuestaDe {a b id n : Str} (digitos : ∀ c ∈ a ++ b ++ n, c.isDigit = true)
    (free : nul ∉ id)
    : nul ∉ respuestaDe a b id n := by
  intro member
  have digit : ¬nul.isDigit = true := by
    decide
  simp only [respuestaDe, List.mem_cons, List.mem_append] at member
  rcases member with p | inA | minus | inB | d | inId | m | inN
  · exact absurd p (by decide)
  · exact digit (digitos nul (by simp [inA]))
  · exact absurd minus (by decide)
  · exact digit (digitos nul (by simp [inB]))
  · exact absurd d (by decide)
  · exact free inId
  · exact absurd m (by decide)
  · exact digit (digitos nul (by simp [inN]))

theorem conLetras_respuestaDe (a b id n : Str) : ConLetras (respuestaDe a b id n) := by
  simp [ConLetras, respuestaDe]

-----------------------------------------------------------------------------------------
-- The two encodings
-----------------------------------------------------------------------------------------

section

variable {x : Externo} {descifra : Str → Str} {decodifica : Str → Option Str}

theorem cifrado_octetos (aes : AesCbc x encKey encIv descifra) {input : Str}
    (octetos : Octetos input)
    : Octetos (x.aesCryptCbc encKey encIv (paddedInput input))
      ∧ (x.aesCryptCbc encKey encIv (paddedInput input)).length = (paddedInput input).length :=
  ⟨aes.octetos _ (paddedInput_octetos octetos) (paddedInput_bloques input),
    aes.largo _ (paddedInput_octetos octetos) (paddedInput_bloques input)⟩

/-- Three blocks of a serial become 64 characters, which leave room for their terminator. -/
theorem length_encrypt_serial (aes : AesCbc x encKey encIv descifra) (base64 : Base64 x decodifica)
    {serial : Str} (octetos : Octetos serial) (largo : serial.length = 33)
    : (encryptAnyLengthString x serial encKey encIv).length = 64 := by
  obtain ⟨bytes, length⟩ := cifrado_octetos aes octetos
  have padded : (paddedInput serial).length = 48 := by
    rw [paddedInput_largo, List.length_append, List.length_replicate, largo]
  rw [encryptAnyLengthString, base64.largo _ bytes, length, padded]

/-- The encrypted serial is read back by decoding it, decrypting it and taking its filling away. -/
theorem encrypt_serial_vuelta (aes : AesCbc x encKey encIv descifra)
    (base64 : Base64 x decodifica) {serial : Str} (octetos : Octetos serial)
    (largo : serial.length = 33)
    : ∃ bloques,
        decodifica (encryptAnyLengthString x serial encKey encIv) = some bloques
        ∧ unpad 16 (descifra bloques) = some serial := by
  have relleno := (padded_iff_resto serial).mpr (by omega)
  rw [encryptAnyLengthString]
  refine ⟨_, base64.inverso _ (cifrado_octetos aes octetos).1, ?_⟩
  rw [aes.inverso _ (paddedInput_octetos octetos) (paddedInput_bloques serial)]
  exact unpad_of_padded (by decide) relleno

end

/-- The three entries are found again, each under its name. -/
theorem get_entradas (x : Externo) (ahsn : Str) (nvs : Almacen)
    : ∀ entrada ∈ entradas x ahsn,
        (nvs.writeAll (entradas x ahsn)).get entrada.1 = some entrada.2 := by
  have nombres : (entradas x ahsn).map Prod.fst
      = ["7_SERIAL_ID", "7_USER_ID", "7_AHSN_BASE64"] :=
    rfl
  have distintas : ((entradas x ahsn).map Prod.fst).Nodup := by
    rw [nombres]
    decide
  have admite : ∀ registro ∈ (entradas x ahsn).map Prod.fst, Admite registro := by
    rw [nombres]
    decide
  intro entrada member
  exact Registers.Store.get_writeAll_of_mem distintas member
    (admite _ (List.mem_map_of_mem member)) nvs

-----------------------------------------------------------------------------------------
-- Main result
-----------------------------------------------------------------------------------------

/-- An answer with a number of 16 characters makes the exchange end well, if its two texts have a
byte more than they are declared with: the serial is that of the device, its two encodings lead
back to it, and no other device gets it. Witness: `guardaAhsn_ok_iff`, with the parts of the serial
apart.
-/
theorem solicitaAhsn_identidad {x : Externo} {descifra : Str → Str}
    {decodifica : Str → Option Str} (aes : AesCbc x encKey encIv descifra)
    (base64 : Base64 x decodifica) {buffers : Buffers}
    (declarados : buffers.dataAsString = Buffers.declarados.dataAsString
      ∧ buffers.base64OutputSize = Buffers.declarados.base64OutputSize)
    (caben : 24 < buffers.macEsp ∧ 33 < buffers.ahsn) {a b id n : Str}
    (digitos : ∀ c ∈ a ++ b ++ n, c.isDigit = true) (dieciseis : id.length = 16)
    (free : 'm' ∉ id ∧ nul ∉ id) (octetos : Octetos id)
    (short : (respuestaDe a b id n).length < 60) (resto : List Char) (mac : Vector UInt8 6)
    (nvs : Almacen)
    : ∃ nvs' ahsnBase64 userId bloques,
        solicitaAhsn x buffers mac (some (respuestaDe a b id n ++ nul :: resto)) nvs
          = .ok (.espOk, nvs')
        ∧ nvs'.get "7_SERIAL_ID" = some (serialDe mac id)
        ∧ nvs'.get "7_AHSN_BASE64" = some ahsnBase64
        ∧ decodifica ahsnBase64 = some (serialDe mac id)
        ∧ nvs'.get "7_USER_ID" = some userId
        ∧ decodifica userId = some bloques
        ∧ unpad 16 (descifra bloques) = some (serialDe mac id)
        ∧ ∀ otra otro, serialDe otra otro = serialDe mac id
          → (otra[2] = mac[2] ∧ otra[3] = mac[3] ∧ otra[4] = mac[4] ∧ otra[5] = mac[5])
            ∧ otro = id := by
  have copied : cstr (respuestaDe a b id n ++ nul :: resto) = respuestaDe a b id n :=
    cstr_append_nul (nul_not_mem_respuestaDe digitos free.2)
  have some' : id ≠ [] := by
    rintro rfl
    cases dieciseis
  have number : idDe (respuestaDe a b id n) = id :=
    idDe_respuestaDe (fun c member => digitos c (List.mem_append_left _ member)) some' free.1 n
  have bytes : Octetos (serialDe mac id) := serialDe_octetos octetos mac
  have largo : (serialDe mac id).length = 33 := by
    rw [length_serialDe, dieciseis]
  have user := length_encrypt_serial aes base64 bytes largo
  have fits : Caben x buffers mac id := by
    refine ⟨by omega, by omega, ?_, ?_⟩
    · rw [user, declarados.2]
      decide
    · rw [user, base64.largo _ bytes, largo]
      decide
  have ended : solicitaAhsn x buffers mac (some (respuestaDe a b id n ++ nul :: resto)) nvs
      = .ok (.espOk, nvs.writeAll (entradas x (serialDe mac id))) := by
    have room : ¬buffers.dataAsString ≤ (respuestaDe a b id n).length := by
      rw [declarados.1]
      exact Nat.not_le.mpr short
    rw [solicitaAhsn_data, copied, if_neg room, if_neg (not_not.mpr (conLetras_respuestaDe a b id n)),
      number, if_neg some', if_neg (not_not.mpr dieciseis)]
    exact guardaAhsn_ok_iff.mpr ⟨fits, rfl⟩
  obtain ⟨bloques, decoded, back⟩ := encrypt_serial_vuelta aes base64 bytes largo
  have written := get_entradas x (serialDe mac id) nvs
  exact ⟨_, _, _, bloques, ended, written _ List.mem_cons_self,
    written _ (List.mem_cons_of_mem _ (List.mem_cons_of_mem _ List.mem_cons_self)),
    base64.inverso _ bytes, written _ (List.mem_cons_of_mem _ List.mem_cons_self), decoded, back,
    fun _ _ same => serialDe_injective same⟩

theorem conCambio_base64 : Base64 conCambio base64Decode where
  largo bytes _ := length_base64Encode bytes
  inverso _ octetos := base64Decode_encode octetos

/-- The device of the sample serial. -/
def macDeMuestra : Vector UInt8 6 := #v[0x24, 0x0a, 0x81, 0x12, 0xcf, 0xa4]

/-- The declared sizes, with a byte more for the two texts that need it. -/
def Buffers.holgados : Buffers := ⟨60, 25, 34, 65⟩

/-- Its answer leads to that serial, whose encryption can be read back. -/
theorem solicitaAhsn_identidad_muestra
    : ∃ nvs' userId bloques,
        solicitaAhsn conCambio .holgados macDeMuestra
            (some ("p1-2d3630343733a55148m3".toList ++ [nul])) .empty
          = .ok (.espOk, nvs')
        ∧ nvs'.get "7_SERIAL_ID" = some serialDeMuestra
        ∧ nvs'.get "7_USER_ID" = some userId
        ∧ base64Decode userId = some bloques
        ∧ unpad 16 (cambia bloques) = some serialDeMuestra := by
  have serial : serialDe macDeMuestra "3630343733a55148".toList = serialDeMuestra := by
    decide
  have declarados : Buffers.holgados.dataAsString = Buffers.declarados.dataAsString
      ∧ Buffers.holgados.base64OutputSize = Buffers.declarados.base64OutputSize :=
    ⟨rfl, rfl⟩
  have digitos : ∀ c ∈ ['1'] ++ ['2'] ++ ['3'], c.isDigit = true :=
    List.all_eq_true.mp rfl
  have dieciseis : "3630343733a55148".toList.length = 16 := by
    decide
  have short : (respuestaDe ['1'] ['2'] "3630343733a55148".toList ['3']).length < 60 := by
    decide
  obtain ⟨nvs', -, userId, bloques, ended, stored, -, -, user, decoded, back, -⟩ :=
    solicitaAhsn_identidad conCambio_aes conCambio_base64 declarados (by decide) digitos
      dieciseis (by decide) (by decide) short [] macDeMuestra .empty
  rw [serial] at stored back
  exact ⟨nvs', userId, bloques, ended, stored, user, decoded, back⟩

end EspHttpControl.Firmware
