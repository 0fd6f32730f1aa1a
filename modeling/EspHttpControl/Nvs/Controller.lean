import EspHttpControl.Nvs.KeyValue
import EspHttpControl.Registers.Store

/-! The non-volatile storage as the firmware reads and writes it.
The storage keeps a string under every name of at most 15 characters and rejects longer names;
names are compared exactly.
-/

namespace EspHttpControl.Nvs

open CText

/-- `NVS_KEY_NAME_MAX_SIZE - 1`, the longest name that the storage accepts. -/
def maxNombre : Nat := 15

abbrev Admite (registro : String) : Prop := registro.length ≤ maxNombre

/-- The partition `"storage"`: the strings kept under the accepted names. -/
abbrev Almacen := Registers.Store String Str Admite

/-- The errors of `nvs_get_str` that `readx_nvs` tells apart: `ESP_ERR_NVS_NOT_FOUND` and every
other one.
-/
inductive NvsError where
  | notFound
  | otro
deriving DecidableEq, Repr

/-- `nvs_get_str`. What it answers for a name that the storage cannot hold is the library's:
`largo`.
-/
def nvsGetStr (largo : NvsError) (nvs : Almacen) (registro : String) : Except NvsError Str :=
  if maxNombre < registro.length then .error largo
  else
    match nvs.get registro with
    | some valor => .ok valor
    | none => .error .notFound

/-- `readx_nvs`: the stored string, or one of two fixed texts for a missing entry and for
any other error. The library that the firmware is linked with looks a long name up in vain.
-/
def readxNvs (nvs : Almacen) (registro : String) (largo : NvsError := .notFound) : Str :=
  match nvsGetStr largo nvs registro with
  | .ok valor => valor
  | .error .notFound => "ESP_ERR_NVS_NOT_FOUND".toList
  | .error .otro => "ERROR_READING_NVS".toList

/-- `KEY_NOT_ALLOCATED`. -/
def keyNotAllocated : UInt16 := 0xFF

/-- `ERROR_READING_NVS`. -/
def errorReadingNvs : UInt16 := 0xFE

/-- The port number that stands for an error. -/
def NvsError.marca : NvsError → UInt16
  | .notFound => keyNotAllocated
  | .otro => errorReadingNvs

/-- `pre_readx_nvs`: the port of a key, with two port numbers standing for "not there". -/
def preReadxNvs (nvs : Almacen) (key : KeyValue) (largo : NvsError := .notFound) : UInt16 :=
  let valor := readxNvs nvs key.registro largo
  if valor = "ESP_ERR_NVS_NOT_FOUND".toList then keyNotAllocated
  else if valor = "ERROR_READING_NVS".toList then errorReadingNvs
  else (atoi valor).toUInt32.toUInt16

/-- `writex_nvs`; an error of the storage is only printed. -/
def writexNvs (nvs : Almacen) (registro : String) (valor : Str) : Almacen :=
  nvs.write registro valor

/-- `pre_writex_nvs`: the value is printed in decimal. -/
def preWritexNvs (nvs : Almacen) (key : KeyValue) (valor : UInt16) : Almacen :=
  writexNvs nvs key.registro (sprintD valor.toNat)

/-- `grabar_nvs` with a value that is not NULL; errors of the storage are dropped. -/
def grabarNvs (nvs : Almacen) (registro : String) (dato : Str) : Almacen :=
  nvs.write registro dato

/-- The key list in RAM: `keys_with_ports`, its counter, and the bytes of its block. -/
structure KeysRam where
  keysWithPorts : List KeyValue
  keysPortsCounter : UInt8
  bloque : Nat
deriving DecidableEq, Repr

/-- One turn of the loading loop: a key whose entry reads as an ordinary port is appended
and the block is regrown to one byte more than the counter.
-/
def loadKey (nvs : Almacen) (ram : KeysRam) (key : KeyValue) : KeysRam :=
  let aux := (preReadxNvs nvs key).toUInt8
  if aux = keyNotAllocated.toUInt8 then ram
  else if aux = errorReadingNvs.toUInt8 then ram
  else
    {
      keysWithPorts := ram.keysWithPorts ++ [key]
      keysPortsCounter := ram.keysPortsCounter + 1
      bloque := (ram.keysPortsCounter + 1).toNat + 1
    }

/-- `load_keys_with_port_assigned_to_RAM`, from the counter's initial value 0. -/
def loadKeysWithPortAssignedToRAM (nvs : Almacen) : KeysRam :=
  KeyValue.all.foldl (loadKey nvs) ⟨[], 0, 1⟩

/-- The entry of a key reads as an ordinary port. -/
def Registrada (nvs : Almacen) (key : KeyValue) : Prop :=
  (preReadxNvs nvs key).toUInt8 ≠ 0xFF ∧ (preReadxNvs nvs key).toUInt8 ≠ 0xFE

instance (nvs : Almacen) (key : KeyValue) : Decidable (Registrada nvs key) :=
  inferInstanceAs (Decidable (_ ∧ _))

/-- A key reads as its entry says. -/
theorem preReadxNvs_congr {nvs otro : Almacen} {key : KeyValue} {largo : NvsError}
    (same : nvs.get key.registro = otro.get key.registro)
    : preReadxNvs nvs key largo = preReadxNvs otro key largo := by
  rw [preReadxNvs, preReadxNvs, readxNvs, readxNvs, nvsGetStr, nvsGetStr, same]

/-- A number is none of the texts that stand for an error. -/
theorem digits_ne {digits texto : Str} (all : ∀ c ∈ digits, c.isDigit = true)
    (letter : ∃ c ∈ texto, c.isDigit = false)
    : digits ≠ texto := by
  obtain ⟨c, member, noDigit⟩ := letter
  rintro rfl
  rw [all c member] at noDigit
  cases noDigit

/-- A value is held under an admitted name only. -/
theorem admite_of_get {nvs : Almacen} {registro : String} {texto : Str}
    (held : nvs.get registro = some texto)
    : Admite registro := by
  by_contra refused
  rw [nvs.rejected registro refused] at held
  exact Option.some_ne_none texto held.symm

/-- A stored text is read. -/
theorem readxNvs_of_get {nvs : Almacen} {registro : String} {texto : Str} {largo : NvsError}
    (held : nvs.get registro = some texto)
    : readxNvs nvs registro largo = texto := by
  rw [readxNvs, nvsGetStr, if_neg (Nat.not_lt.mpr (admite_of_get held)), held]

/-- With the linked library a long name reads as a missing entry does. -/
theorem readxNvs_eq (nvs : Almacen) (registro : String)
    : readxNvs nvs registro = (nvs.get registro).getD "ESP_ERR_NVS_NOT_FOUND".toList := by
  by_cases largo : maxNombre < registro.length
  · rw [readxNvs, nvsGetStr, if_pos largo, nvs.rejected registro (Nat.not_le.mpr largo)]
    rfl
  · rw [readxNvs, nvsGetStr, if_neg largo]
    cases nvs.get registro <;> rfl

/-- An entry of digits reads as their number. -/
theorem preReadxNvs_digits {nvs : Almacen} {key : KeyValue} {texto : Str} {largo : NvsError}
    (held : nvs.get key.registro = some texto) (nonempty : texto ≠ [])
    (digits : ∀ c ∈ texto, c.isDigit = true) (small : digitsValue texto < 65536)
    : preReadxNvs nvs key largo = UInt16.ofNat (digitsValue texto) := by
  have read : readxNvs nvs key.registro largo = texto := readxNvs_of_get held
  have found : texto ≠ "ESP_ERR_NVS_NOT_FOUND".toList :=
    digits_ne digits ⟨'E', by decide, by decide⟩
  have fine : texto ≠ "ERROR_READING_NVS".toList :=
    digits_ne digits ⟨'E', by decide, by decide⟩
  rw [preReadxNvs, read, if_neg found, if_neg fine, atoi_digits nonempty digits (by omega)]
  simp

theorem preReadxNvs_puerto {nvs : Almacen} {key : KeyValue} {puerto : Nat} {largo : NvsError}
    (small : puerto < 65536) (held : nvs.get key.registro = some (Nat.toDigits 10 puerto))
    : preReadxNvs nvs key largo = UInt16.ofNat puerto := by
  have value := digitsValue_toDigits puerto
  have read : preReadxNvs nvs key largo = UInt16.ofNat (digitsValue (Nat.toDigits 10 puerto)) :=
    preReadxNvs_digits held Nat.toDigits_ne_nil (fun _ member => toDigits_isDigit member)
      (by rwa [value])
  rwa [value] at read

/-- An entry that reads as a port below the two marks is loaded. -/
theorem registrada_of_puerto {nvs : Almacen} {key : KeyValue} {puerto : Nat}
    (small : puerto ≤ 253) (read : (preReadxNvs nvs key).toNat = puerto)
    : Registrada nvs key := by
  have low : (preReadxNvs nvs key).toUInt8.toNat = puerto := by
    rw [UInt16.toNat_toUInt8, read]
    omega
  refine ⟨fun mark => ?_, fun mark => ?_⟩
  · rw [mark] at low
    have same : puerto = 255 := low.symm
    omega
  · rw [mark] at low
    have same : puerto = 254 := low.symm
    omega

/-- A key without an entry is not loaded. -/
theorem registrada_ne_none {nvs : Almacen} {key : KeyValue} (registrada : Registrada nvs key)
    : nvs.get key.registro ≠ none := by
  intro missing
  have unread : readxNvs nvs key.registro = "ESP_ERR_NVS_NOT_FOUND".toList := by
    rw [readxNvs_eq, missing, Option.getD_none]
  rw [Registrada, preReadxNvs, unread] at registrada
  exact registrada.1 rfl

theorem loadKey_keys (nvs : Almacen) (ram : KeysRam) (key : KeyValue)
    : (loadKey nvs ram key).keysWithPorts
      = ram.keysWithPorts ++ [key].filter (Registrada nvs ·) := by
  have notAllocated : keyNotAllocated.toUInt8 = 0xFF := rfl
  have reading : errorReadingNvs.toUInt8 = 0xFE := rfl
  simp only [loadKey, notAllocated, reading]
  split
  · rename_i skipped
    simp [Registrada, skipped]
  · split
    · rename_i skipped
      simp [Registrada, skipped]
    · rename_i present readable
      have registered : Registrada nvs key := ⟨present, readable⟩
      simp [registered]

/-- The loaded list is the list of the registered keys in the order of their numbers.
Witness: induction over the scanned keys, appending one turn at a time.
-/
theorem loadKeys_eq_filter (nvs : Almacen)
    : (loadKeysWithPortAssignedToRAM nvs).keysWithPorts
      = KeyValue.all.filter (Registrada nvs ·) := by
  have scan (keys : List KeyValue) (ram : KeysRam)
      : (keys.foldl (loadKey nvs) ram).keysWithPorts
        = ram.keysWithPorts ++ keys.filter (Registrada nvs ·) := by
    induction keys generalizing ram with
    | nil => simp
    | cons key rest ih =>
        rw [List.foldl_cons, ih, loadKey_keys, List.append_assoc, ← List.filter_append,
          List.singleton_append]
  rw [loadKeysWithPortAssignedToRAM, scan, List.nil_append]

/-- A key is loaded exactly when it is registered. -/
theorem mem_loadKeys {nvs : Almacen} {key : KeyValue}
    : key ∈ (loadKeysWithPortAssignedToRAM nvs).keysWithPorts ↔ Registrada nvs key := by
  simp [loadKeys_eq_filter, KeyValue.mem_all]

end EspHttpControl.Nvs
