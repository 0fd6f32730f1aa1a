import EspHttpControl.CText.Block
import EspHttpControl.Nvs.Claves

/-! The table of keys in the heap, as the boot builds it: the block that grows with each key, and
the keys that it ends up with.
-/

namespace EspHttpControl.Nvs

open CText

/-- `keys_with_ports` as a block of the heap, with its counter. -/
structure Tabla where
  keysWithPorts : Block UInt8
  keysPortsCounter : UInt8

/-- One turn of the loading loop; `none` is a write outside the block. -/
def Tabla.loadKey (nvs : Almacen) (tabla : Tabla) (key : KeyValue) : Option Tabla :=
  let aux := (preReadxNvs nvs key).toUInt8
  if aux = keyNotAllocated.toUInt8 then some tabla
  else if aux = errorReadingNvs.toUInt8 then some tabla
  else
    (poke tabla.keysWithPorts tabla.keysPortsCounter.toNat key.num).map fun block =>
      let keysPortsCounter := tabla.keysPortsCounter + 1
      ⟨realloc block (keysPortsCounter.toNat + 1), keysPortsCounter⟩

/-- `load_keys_with_port_assigned_to_RAM` on a block of one byte. -/
def Tabla.loadKeysWithPortAssignedToRAM (nvs : Almacen) : Option Tabla :=
  KeyValue.all.foldlM (Tabla.loadKey nvs) ⟨realloc [] 1, 0⟩

/-- Each entry of the table is absent or holds a decimal port. -/
def EntradasDecimales (nvs : Almacen) : Prop :=
  ∀ key : KeyValue, nvs.get key.registro = none
    ∨ ∃ texto, nvs.get key.registro = some texto
      ∧ texto ≠ [] ∧ (∀ c ∈ texto, c.isDigit = true)
      ∧ (digitsValue texto ≤ 253 ∨ digitsValue texto = 255)

/-- The entry of a key is present and not 255. -/
def Asignada (nvs : Almacen) (key : KeyValue) : Prop :=
  ∃ texto, nvs.get key.registro = some texto ∧ digitsValue texto ≠ 255

-----------------------------------------------------------------------------------------
-- The block against the list
-----------------------------------------------------------------------------------------

/-- The block holds the keys of the list and one spare cell; the counter counts them. -/
structure Refleja (tabla : Tabla) (ram : KeysRam) : Prop where
  bloque : tabla.keysWithPorts = (ram.keysWithPorts.map KeyValue.num).map some ++ [none]
  contador : tabla.keysPortsCounter = ram.keysPortsCounter
  cuenta : ram.keysPortsCounter.toNat = ram.keysWithPorts.length

/-- A turn stores inside the block, as long as the counter does not wrap. -/
theorem Refleja.loadKey {tabla : Tabla} {ram : KeysRam} (same : Refleja tabla ram)
    (nvs : Almacen) (few : ram.keysWithPorts.length < 255) (key : KeyValue)
    : ∃ next, Tabla.loadKey nvs tabla key = some next ∧ Refleja next (Nvs.loadKey nvs ram key)
      := by
  simp only [Tabla.loadKey, Nvs.loadKey]
  split
  · exact ⟨tabla, rfl, same⟩
  · split
    · exact ⟨tabla, rfl, same⟩
    · have place : tabla.keysPortsCounter.toNat = (ram.keysWithPorts.map KeyValue.num).length := by
        rw [same.contador, same.cuenta, List.length_map]
      have counted : (ram.keysPortsCounter + 1).toNat = ram.keysWithPorts.length + 1 := by
        have one : (1 : UInt8).toNat = 1 := rfl
        rw [UInt8.toNat_add, same.cuenta, one]
        exact Nat.mod_eq_of_lt (by omega)
      rw [same.bloque, place, poke_spare]
      refine ⟨_, rfl, ?_, ?_, ?_⟩
      · have size : (tabla.keysPortsCounter + 1).toNat
            = (ram.keysWithPorts.map KeyValue.num ++ [key.num]).length := by
          rw [same.contador, counted, List.length_append, List.length_map]
          rfl
        dsimp only
        rw [size, realloc_succ, List.map_append, List.map_append, List.map_append]
        rfl
      · exact congrArg (· + 1) same.contador
      · dsimp only
        rw [counted, List.length_append]
        rfl

/-- The loop over some keys, by induction on them: each one adds at most one element. -/
theorem Refleja.foldlM {nvs : Almacen} {tabla : Tabla} {ram : KeysRam} (same : Refleja tabla ram)
    (keys : List KeyValue) (few : ram.keysWithPorts.length + keys.length ≤ 255)
    : ∃ last, keys.foldlM (Tabla.loadKey nvs) tabla = some last
        ∧ Refleja last (keys.foldl (Nvs.loadKey nvs) ram) := by
  induction keys generalizing tabla ram with
  | nil => exact ⟨tabla, rfl, same⟩
  | cons key rest ih =>
      rw [List.length_cons] at few
      obtain ⟨next, turn, reflected⟩ := same.loadKey nvs (by omega) key
      have grown : (Nvs.loadKey nvs ram key).keysWithPorts.length
          ≤ ram.keysWithPorts.length + 1 := by
        rw [loadKey_keys, List.length_append]
        exact Nat.add_le_add_left (List.length_filter_le _ _) _
      rw [List.foldlM_cons, turn]
      exact ih reflected (by omega)

/-- The block ends up with the loaded list. -/
theorem tabla_refleja (nvs : Almacen)
    : ∃ tabla, Tabla.loadKeysWithPortAssignedToRAM nvs = some tabla
        ∧ Refleja tabla (loadKeysWithPortAssignedToRAM nvs) := by
  have start : Refleja ⟨realloc [] 1, 0⟩ ⟨[], 0, 1⟩ := ⟨rfl, rfl, rfl⟩
  refine start.foldlM KeyValue.all ?_
  rw [KeyValue.all, List.length_map, List.length_range]
  decide

-----------------------------------------------------------------------------------------
-- The keys in the table
-----------------------------------------------------------------------------------------

theorem all_increasing : KeyValue.all.Pairwise fun first second => first.num < second.num := by
  decide +kernel

/-- The loop takes a key for assigned exactly if its entry is present and not 255. -/
theorem registrada_iff_asignada {nvs : Almacen} (decimales : EntradasDecimales nvs)
    (key : KeyValue)
    : Registrada nvs key ↔ Asignada nvs key := by
  rcases decimales key with absent | ⟨texto, held, nonempty, digits, range⟩
  · constructor
    · exact fun registrada => absurd absent (registrada_ne_none registrada)
    · rintro ⟨texto, held, -⟩
      rw [absent] at held
      exact absurd held.symm (Option.some_ne_none texto)
  · have small : digitsValue texto < 65536 := by omega
    have read : preReadxNvs nvs key = UInt16.ofNat (digitsValue texto) :=
      preReadxNvs_digits held nonempty digits small
    constructor
    · intro registrada
      refine ⟨texto, held, fun mark => registrada.1 ?_⟩
      rw [read, mark]
      rfl
    · rintro ⟨other, same, present⟩
      obtain rfl := Option.some.inj (held.symm.trans same)
      refine registrada_of_puerto (range.resolve_right present) ?_
      rw [read, UInt16.toNat_ofNat_of_lt' small]

/-- The boot leaves in the table, with strictly increasing numbers, exactly the keys whose entry is
present and not 255, and never writes outside the block.
-/
theorem tabla_exacta {nvs : Almacen} (decimales : EntradasDecimales nvs)
    : ∃ (tabla : Tabla) (keys : List KeyValue), Tabla.loadKeysWithPortAssignedToRAM nvs = some tabla
        ∧ tabla.keysWithPorts.take tabla.keysPortsCounter.toNat
          = keys.map (fun key : KeyValue => some key.num)
        ∧ tabla.keysPortsCounter.toNat = keys.length
        ∧ (keys.map KeyValue.num).Pairwise (· < ·)
        ∧ ∀ key, key ∈ keys ↔ Asignada nvs key := by
  obtain ⟨tabla, loaded, same⟩ := tabla_refleja nvs
  refine ⟨tabla, (loadKeysWithPortAssignedToRAM nvs).keysWithPorts, loaded, ?_, ?_, ?_, ?_⟩
  · have long : tabla.keysPortsCounter.toNat
        = ((loadKeysWithPortAssignedToRAM nvs).keysWithPorts.map KeyValue.num
            |>.map some).length := by
      rw [same.contador, same.cuenta, List.length_map, List.length_map]
    rw [same.bloque, long, List.take_left, List.map_map]
    rfl
  · rw [same.contador, same.cuenta]
  · rw [loadKeys_eq_filter]
    exact (all_increasing.filter _).map _ fun _ _ below => below
  · exact fun key => mem_loadKeys.trans (registrada_iff_asignada decimales key)

/-- Storing a port keeps the entries decimal. -/
theorem EntradasDecimales.preWritexNvs {nvs : Almacen} (decimales : EntradasDecimales nvs)
    (key : KeyValue) {puerto : UInt16} (range : puerto.toNat ≤ 253 ∨ puerto.toNat = 255)
    : EntradasDecimales (preWritexNvs nvs key puerto) := by
  intro other
  by_cases here : other.registro = key.registro
  · by_cases admite : Admite key.registro
    · refine Or.inr ⟨Nat.toDigits 10 puerto.toNat, ?_, Nat.toDigits_ne_nil,
        fun _ member => toDigits_isDigit member, ?_⟩
      · rw [here]
        exact nvs.get_write_self _ admite
      · rwa [digitsValue_toDigits]
    · exact Or.inl (here ▸ Registers.Store.rejected _ _ admite)
  · have kept := nvs.get_write_of_ne (sprintD puerto.toNat) here
    rw [Nvs.preWritexNvs, writexNvs, kept]
    exact decimales other

/-- The table of a card with one port and one key that was given none. -/
theorem tabla_exacta_dos_entradas
    : ∃ (tabla : Tabla) (keys : List KeyValue), Tabla.loadKeysWithPortAssignedToRAM
          (preWritexNvs (preWritexNvs Registers.Store.empty .presacei 12) .temptrans 255)
          = some tabla
        ∧ tabla.keysWithPorts.take tabla.keysPortsCounter.toNat
          = keys.map (fun key : KeyValue => some key.num)
        ∧ tabla.keysPortsCounter.toNat = keys.length
        ∧ (keys.map KeyValue.num).Pairwise (· < ·)
        ∧ ∀ key, key ∈ keys ↔ Asignada
            (preWritexNvs (preWritexNvs Registers.Store.empty .presacei 12) .temptrans 255) key :=
  tabla_exacta (EntradasDecimales.preWritexNvs
    (EntradasDecimales.preWritexNvs (fun _ => Or.inl rfl) .presacei (by decide)) .temptrans
      (by decide))

end EspHttpControl.Nvs
