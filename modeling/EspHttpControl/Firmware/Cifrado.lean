import EspHttpControl.CText.Base64
import EspHttpControl.CText.Pkcs7
import EspHttpControl.Firmware.AppMain
import Mathlib.Logic.Equiv.Basic

/-! The filling of `encrypt_any_length_string`.
The padded length is taken from the length of the text and the value of the filling from its
length with the terminator. A character stands for a byte, and the code of the cipher is not part
of the firmware.
-/

namespace EspHttpControl.Firmware

open CText

/-- A text whose characters are bytes. -/
def Octetos (texto : Str) : Prop := ∀ c ∈ texto, c.toNat < 256

instance (texto : Str) : Decidable (Octetos texto) := List.decidableBAll _ texto

/-- AES-CBC under a key and an initial vector, and its inverse: whole blocks of bytes go to as
many bytes, and back.
-/
structure AesCbc (x : Externo) (key iv : Str) (descifra : Str → Str) : Prop where
  octetos : ∀ bloques,
    Octetos bloques → 16 ∣ bloques.length → Octetos (x.aesCryptCbc key iv bloques)
  largo : ∀ bloques,
    Octetos bloques
    → 16 ∣ bloques.length
    → (x.aesCryptCbc key iv bloques).length = bloques.length
  inverso : ∀ bloques,
    Octetos bloques → 16 ∣ bloques.length → descifra (x.aesCryptCbc key iv bloques) = bloques

/-- The two formulas for the padded length agree. -/
theorem paddedInput_largo (input : Str)
    : paddedInput input
      = input ++ List.replicate (16 - input.length % 16)
        (Char.ofNat (17 - (input.length + 1) % 16)) := by
  have count : (if input.length + 1 < 16 then 16 else (input.length / 16 + 1) * 16) - input.length
      = 16 - input.length % 16 := by
    split <;> omega
  simp only [paddedInput, count]

theorem paddedInput_bloques (input : Str) : 16 ∣ (paddedInput input).length := by
  rw [paddedInput_largo, List.length_append, List.length_replicate]
  omega

theorem paddedInput_octetos {input : Str} (octetos : Octetos input)
    : Octetos (paddedInput input) := by
  intro c member
  rw [paddedInput_largo, List.mem_append, List.mem_replicate] at member
  rcases member with inside | ⟨-, rfl⟩
  · exact octetos c inside
  · have small : 17 - (input.length + 1) % 16 < 256 := by
      omega
    rwa [toNat_ofNat_byte small]

/-- The value of the filling is its length unless one byte is missing to whole blocks. -/
theorem paddedInput_eq_pkcs7 {input : Str} (other : input.length % 16 ≠ 15)
    : paddedInput input = pkcs7 16 input := by
  have value : 17 - (input.length + 1) % 16 = 16 - input.length % 16 := by
    omega
  rw [paddedInput_largo, value, pkcs7, pad]

/-- Where one byte is missing the filling has a value that is no length of a filling. -/
theorem paddedInput_of_quince {input : Str} (quince : input.length % 16 = 15)
    : paddedInput input = input ++ [Char.ofNat 17] := by
  have value : 17 - (input.length + 1) % 16 = 17 := by
    omega
  rw [paddedInput_largo, value, quince]
  rfl

theorem padded_iff_resto (input : Str)
    : Padded 16 input (paddedInput input) ↔ input.length % 16 ≠ 15 := by
  rw [padded_iff (by decide)]
  constructor
  · intro same quince
    rw [paddedInput_of_quince quince, pkcs7, quince, pad] at same
    exact absurd (List.append_cancel_left same) (by decide)
  · exact paddedInput_eq_pkcs7

-----------------------------------------------------------------------------------------
-- Main result
-----------------------------------------------------------------------------------------

/-- What should hold of every input: the cipher gets it with a filling in whole blocks, so that
decrypting and taking the filling away gives it back.
-/
structure Reversible (x : Externo) (key iv : Str) (descifra : Str → Str) (input : Str) : Prop where
  relleno : Padded 16 input (paddedInput input)
  vuelta : unpad 16 (descifra (x.aesCryptCbc key iv (paddedInput input))) = some input

/-- The encryption of an input can be undone exactly if its length is not one less than a multiple
of 16. Witness: the filling is that of PKCS #7 in every other residue class.
-/
theorem encrypt_reversible_iff {x : Externo} {key iv : Str} {descifra : Str → Str}
    (aes : AesCbc x key iv descifra) {input : Str} (octetos : Octetos input)
    : Reversible x key iv descifra input ↔ input.length % 16 ≠ 15 := by
  constructor
  · exact fun reversible => (padded_iff_resto input).mp reversible.relleno
  · intro other
    have relleno := (padded_iff_resto input).mpr other
    refine ⟨relleno, ?_⟩
    rw [aes.inverso _ (paddedInput_octetos octetos) (paddedInput_bloques input)]
    exact unpad_of_padded (by decide) relleno

/-- `enc_key` -/
def encKey : Str := "@AjH39zYz!by3Y#Aw4v%n8KZssaMpETT".toList

/-- `enc_iv` -/
def encIv : Str := "Bx3K6U3@^955ZN5G".toList

/-- A serial, and its blocks as the cipher gives them under the two texts of the firmware. -/
def serialDeMuestra : Str := ":020a00008112cfa43630343733a55148".toList

def serialCifrado : Str :=
  [17, 184, 17, 179, 162, 172, 86, 216, 249, 113, 35, 212, 101, 130, 223, 52, 49, 15, 212, 173,
    113, 184, 106, 237, 46, 66, 100, 8, 96, 137, 191, 233, 138, 205, 53, 171, 227, 52, 156, 171,
    170, 204, 227, 149, 76, 157, 153, 70].map Char.ofNat

/-- A permutation of the blocks that encrypts that serial. -/
def cambia (bloques : Str) : Str :=
  Equiv.swap (serialDeMuestra ++ List.replicate 15 (Char.ofNat 15)) serialCifrado bloques

def conCambio : Externo where
  parse _ := none
  atof _ := 0
  aesCryptCbc key iv bloques := if key = encKey ∧ iv = encIv then cambia bloques else bloques
  base64Encode := base64Encode

theorem cambia_bloques (bloques : Str)
    : (cambia bloques).length = bloques.length
      ∧ (Octetos bloques → Octetos (cambia bloques)) := by
  have forms : serialCifrado.length = 48 ∧ Octetos serialCifrado
      ∧ (serialDeMuestra ++ List.replicate 15 (Char.ofNat 15)).length = 48
      ∧ Octetos (serialDeMuestra ++ List.replicate 15 (Char.ofNat 15)) := by
    decide +kernel
  obtain ⟨cifrado, octetosCifrado, claro, octetosClaro⟩ := forms
  rw [cambia, Equiv.swap_apply_def]
  split
  · next same =>
    rw [same, cifrado, claro]
    exact ⟨rfl, fun _ => octetosCifrado⟩
  · split
    · next same =>
      rw [same, cifrado, claro]
      exact ⟨rfl, fun _ => octetosClaro⟩
    · exact ⟨rfl, id⟩

theorem conCambio_aes : AesCbc conCambio encKey encIv cambia where
  octetos bloques octetos _ := (cambia_bloques bloques).2 octetos
  largo bloques _ _ := (cambia_bloques bloques).1
  inverso bloques _ _ := Equiv.ext_iff.mp (Equiv.swap_swap _ _) bloques

/-- A serial has 33 bytes, so that its filling is a right one. -/
theorem encrypt_reversible_serial
    : Reversible conCambio encKey encIv cambia serialDeMuestra :=
  (encrypt_reversible_iff conCambio_aes (by decide)).mpr (by decide)

/-- Fifteen bytes get one byte of value 17. -/
theorem encrypt_no_relleno : ¬∀ input, Octetos input → Padded 16 input (paddedInput input) := by
  intro claim
  have quince := (padded_iff_resto "123456789012345".toList).mp (claim _ (by decide))
  exact quince rfl

end EspHttpControl.Firmware
