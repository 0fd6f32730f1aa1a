import EspHttpControl.CText.Cells
import EspHttpControl.CText.Hex
import EspHttpControl.Http.Handlers

/-! The text that stands for the address of the card: whether it fits its buffer, and whether it is
the text of one address only.
-/

namespace EspHttpControl.Http

open CText

/-- `sprintf(&s[n], "%x", byte)` into the buffer `s`; `none` is a print outside it. -/
def imprimeByte (buffer : Vector Char 10 × Nat) (byte : UInt8) : Option (Vector Char 10 × Nat) :=
  let digits := Nat.toDigits 16 byte.toNat
  (copyAt buffer.1 buffer.2 (digits ++ [nul])).map fun s => (s, buffer.2 + digits.length)

/-- The loop of `version_handler` and of `mac_address`, and the string in its buffer. -/
def imprimeMac (mac : Vector UInt8 6) : Option Str :=
  (mac.toList.foldlM imprimeByte (Vector.replicate 10 nul, 0)).map fun buffer =>
    cstr buffer.1.toList

/-- `mac_address` -/
def macAddress (d : Device) : Option Device :=
  (imprimeMac d.mac).map fun s => d.grabarNvs "8_MACADRRWIFI" s

/-- The text of an address fits its buffer and is that of no other address. -/
def Identifica (mac : Vector UInt8 6) : Prop :=
  ∃ s, imprimeMac mac = some s ∧ ∀ other, imprimeMac other = some s → other = mac

/-- At most three bytes take two digits. -/
def PocosDobles (mac : Vector UInt8 6) : Prop :=
  mac.toList.countP (16 ≤ ·.toNat) ≤ 3

/-- All bytes take one digit, or no cut between two of them can be moved. -/
def CortesFijos (mac : Vector UInt8 6) : Prop :=
  (∀ byte ∈ mac.toList, byte.toNat < 16) ∨ mac.toList.IsChain CutFixed

-----------------------------------------------------------------------------------------
-- The buffer
-----------------------------------------------------------------------------------------

/-- The loop prints the bytes behind the front as long as there is room for the terminator, by
induction on the bytes.
-/
theorem foldlM_imprimeByte (bytes : List UInt8) {front : Str} (room : front.length < 10)
    : bytes.foldlM imprimeByte (overlay (Vector.replicate 10 nul) front, front.length)
      = if (front ++ hexText bytes).length < 10 then
          some (overlay (Vector.replicate 10 nul) (front ++ hexText bytes),
            (front ++ hexText bytes).length)
        else none := by
  induction bytes generalizing front with
  | nil =>
      have none' : hexText [] = [] := rfl
      rw [none', List.append_nil, if_pos room]
      rfl
  | cons byte rest ih =>
      have cons : hexText (byte :: rest) = Nat.toDigits 16 byte.toNat ++ hexText rest := rfl
      rw [List.foldlM_cons, cons, ← List.append_assoc, imprimeByte]
      dsimp only
      by_cases fits : (front ++ Nat.toDigits 16 byte.toNat).length < 10
      · have copied : (front ++ (Nat.toDigits 16 byte.toNat ++ [nul])).length ≤ 10 := by
          rw [← List.append_assoc, List.length_append]
          exact fits
        rw [copyAt_overlay copied, ← List.append_assoc, overlay_replicate_append, ← List.length_append]
        exact ih fits
      · have long : 10 < (front ++ (Nat.toDigits 16 byte.toNat ++ [nul])).length := by
          rw [← List.append_assoc, List.length_append, List.length_singleton]
          omega
        have longer : ¬(front ++ Nat.toDigits 16 byte.toNat ++ hexText rest).length < 10 := by
          rw [List.length_append]
          omega
        rw [if_neg longer, copyAt_eq_none long]
        rfl

/-- The buffer holds the text of the address exactly if it is shorter than ten. -/
theorem imprimeMac_eq (mac : Vector UInt8 6)
    : imprimeMac mac = if (textoMac mac).length < 10 then some (textoMac mac) else none := by
  have text : textoMac mac = hexText mac.toList := rfl
  have printed := foldlM_imprimeByte mac.toList (show ([] : Str).length < 10 by decide)
  rw [overlay_nil, List.length_nil, List.nil_append] at printed
  rw [imprimeMac, printed, text]
  split
  · next short =>
    have behind : (Vector.replicate 10 nul).toList.drop (hexText mac.toList).length
        = nul :: List.replicate (9 - (hexText mac.toList).length) nul := by
      have more : 10 - (hexText mac.toList).length = 9 - (hexText mac.toList).length + 1 := by
        omega
      rw [Vector.toList_replicate, List.drop_replicate, more, List.replicate_succ]
    rw [Option.map_some, toList_overlay_append (Nat.le_of_lt short), behind,
      cstr_append_nul (nul_not_mem_hexText _)]
  · rfl

-----------------------------------------------------------------------------------------
-- Main result
-----------------------------------------------------------------------------------------

theorem length_textoMac (mac : Vector UInt8 6)
    : (textoMac mac).length < 10 ↔ PocosDobles mac := by
  have length : (textoMac mac).length = mac.toList.length + mac.toList.countP (16 ≤ ·.toNat) :=
    length_hexText mac.toList
  rw [length, Vector.length_toList, PocosDobles]
  omega

theorem textoMac_unico_iff (mac : Vector UInt8 6)
    : (∀ other, textoMac other = textoMac mac → other = mac) ↔ CortesFijos mac := by
  rw [CortesFijos, ← hexText_unique_iff]
  constructor
  · intro unique others length same
    rw [Vector.length_toList] at length
    have other := unique ⟨others.toArray, length⟩ same
    rw [← other]
    rfl
  · intro unique other same
    exact Vector.toList_inj.mp (unique other.toList (by simp) same)

theorem identifica_iff (mac : Vector UInt8 6)
    : Identifica mac ↔ PocosDobles mac ∧ CortesFijos mac := by
  rw [← length_textoMac, ← textoMac_unico_iff]
  constructor
  · rintro ⟨s, printed, unique⟩
    rw [imprimeMac_eq] at printed
    obtain ⟨short, same⟩ := Option.ite_none_right_eq_some.mp printed
    obtain rfl := Option.some.inj same
    refine ⟨short, fun other text => unique other ?_⟩
    rw [imprimeMac_eq, text, if_pos short]
  · rintro ⟨short, unique⟩
    refine ⟨textoMac mac, by rw [imprimeMac_eq, if_pos short], fun other printed => ?_⟩
    rw [imprimeMac_eq] at printed
    exact unique other (Option.some.inj (Option.ite_none_right_eq_some.mp printed).2)

/-- The text identifies the card exactly if at most three bytes of its address take two digits, and
all bytes take one or no cut between them can be moved. A text that fits is what `mac_address` and
`version_handler` store.
-/
theorem mac_identifica_iff (d : Device)
    : (∀ s, imprimeMac d.mac = some s
        → macAddress d = some (d.grabarNvs "8_MACADRRWIFI" s)
          ∧ (versionHandler d).dev
            = (d.grabarNvs "8_MACADRRWIFI" s).grabarNvs "2_WiFi-AP-SSID"
                ("ivAdventureM_".toList ++ s))
      ∧ (Identifica d.mac ↔ PocosDobles d.mac ∧ CortesFijos d.mac) := by
  refine ⟨fun s printed => ?_, identifica_iff d.mac⟩
  have stored : macAddress d = some (d.grabarNvs "8_MACADRRWIFI" s) := by
    rw [macAddress, printed, Option.map_some]
  rw [imprimeMac_eq] at printed
  obtain ⟨-, same⟩ := Option.ite_none_right_eq_some.mp printed
  obtain rfl := Option.some.inj same
  exact ⟨stored, (versionHandler_textoMac d).1⟩

/-- A usual address overflows the buffer, and of two short ones each has the text of the other. -/
theorem mac_sin_identificar
    : ¬Identifica #v[0x24, 0x0A, 0xC4, 0x12, 0x34, 0x56]
      ∧ ¬Identifica #v[0x12, 0x03, 0x00, 0x00, 0x00, 0x00] := by
  constructor
  · rintro ⟨s, printed, -⟩
    have long : ¬(textoMac #v[0x24, 0x0A, 0xC4, 0x12, 0x34, 0x56]).length < 10 := by decide
    rw [imprimeMac_eq, if_neg long] at printed
    exact Option.some_ne_none s printed.symm
  · rintro ⟨s, printed, unique⟩
    have same : textoMac #v[0x01, 0x23, 0x00, 0x00, 0x00, 0x00]
        = textoMac #v[0x12, 0x03, 0x00, 0x00, 0x00, 0x00] := by decide
    have other := unique #v[0x01, 0x23, 0x00, 0x00, 0x00, 0x00]
      (by rw [imprimeMac_eq, same, ← imprimeMac_eq, printed])
    exact absurd other (by decide)

end EspHttpControl.Http
