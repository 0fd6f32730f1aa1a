import Mathlib.Data.List.Induction
import EspHttpControl.Nvs.Controller

/-! The keys of the card as registers of their own: what `pre_readx_nvs` returns behind the writes
of `pre_writex_nvs`.
-/

namespace EspHttpControl.Nvs

open CText

/-- A run of writes, each of a value to a key. -/
def escribeClaves (nvs : Almacen) (escrituras : List (KeyValue × UInt16)) : Almacen :=
  escrituras.foldl (fun nvs escritura => preWritexNvs nvs escritura.1 escritura.2) nvs

/-- The value that a run of writes gives to a key last. -/
def ultimo (escrituras : List (KeyValue × UInt16)) (key : KeyValue) : Option UInt16 :=
  escrituras.foldl
    (fun last escritura => if escritura.1 = key then some escritura.2 else last) none

section

variable (largo : NvsError) (nvs : Almacen)

/-- A write is read back, and the other keys read as before. -/
def Conserva (key : KeyValue) (valor : UInt16) : Prop :=
  preReadxNvs (preWritexNvs nvs key valor) key largo = valor
  ∧ ∀ other, other ≠ key
      → preReadxNvs (preWritexNvs nvs key valor) other largo = preReadxNvs nvs other largo

/-- Behind a run of writes every key reads its last written value, or as before. -/
def ConservaTodas (escrituras : List (KeyValue × UInt16)) : Prop :=
  ∀ key, preReadxNvs (escribeClaves nvs escrituras) key largo
    = (ultimo escrituras key).getD (preReadxNvs nvs key largo)

end

-----------------------------------------------------------------------------------------
-- One write
-----------------------------------------------------------------------------------------

/-- One name is too long for the storage. -/
theorem admite_registro
    : ∀ key ∈ KeyValue.all, key ≠ .toldoSuperior → Admite key.registro := by
  decide +kernel

theorem not_admite_toldoSuperior : ¬Admite KeyValue.toldoSuperior.registro := by
  decide +kernel

/-- The key with the long name reads as an error, whatever is stored. -/
theorem preReadxNvs_toldoSuperior (largo : NvsError) (nvs : Almacen)
    : preReadxNvs nvs .toldoSuperior largo = largo.marca := by
  rw [preReadxNvs, readxNvs, nvsGetStr, if_pos (Nat.lt_of_not_le not_admite_toldoSuperior)]
  cases largo <;> rfl

/-- What each key reads behind one write: the write is lost exactly if the name is too long. -/
theorem preReadxNvs_preWritexNvs (largo : NvsError) (nvs : Almacen) (key other : KeyValue)
    (valor : UInt16)
    : preReadxNvs (preWritexNvs nvs key valor) other largo
      = if key = other ∧ key ≠ .toldoSuperior then valor else preReadxNvs nvs other largo := by
  by_cases same : key = other
  · subst same
    by_cases excede : key = .toldoSuperior
    · subst excede
      rw [preReadxNvs_toldoSuperior, preReadxNvs_toldoSuperior, if_neg fun both => both.2 rfl]
    · have admite := admite_registro key (KeyValue.mem_all key) excede
      have held : (preWritexNvs nvs key valor).get key.registro
          = some (Nat.toDigits 10 valor.toNat) :=
        nvs.get_write_self _ admite
      rw [if_pos ⟨rfl, excede⟩, preReadxNvs_puerto valor.toNat_lt held,
        UInt16.ofNat_toNat]
  · have apart : other.registro ≠ key.registro :=
      fun names => same (KeyValue.registro_injective names).symm
    rw [if_neg fun both => same both.1]
    exact preReadxNvs_congr (nvs.get_write_of_ne _ apart)

theorem conserva_iff (largo : NvsError) (nvs : Almacen) (key : KeyValue) (valor : UInt16)
    : Conserva largo nvs key valor ↔ key ≠ .toldoSuperior ∨ valor = largo.marca := by
  have others : ∀ other, other ≠ key
      → preReadxNvs (preWritexNvs nvs key valor) other largo = preReadxNvs nvs other largo := by
    intro other apart
    rw [preReadxNvs_preWritexNvs, if_neg fun both => apart both.1.symm]
  rw [Conserva, preReadxNvs_preWritexNvs]
  by_cases excede : key = .toldoSuperior
  · subst excede
    rw [if_neg fun both => both.2 rfl, preReadxNvs_toldoSuperior]
    exact ⟨fun both => Or.inr both.1.symm, fun either =>
      ⟨(either.resolve_left fun short => short rfl).symm, others⟩⟩
  · rw [if_pos ⟨rfl, excede⟩]
    exact ⟨fun _ => Or.inl excede, fun _ => ⟨rfl, others⟩⟩

-----------------------------------------------------------------------------------------
-- A run of writes
-----------------------------------------------------------------------------------------

/-- The last written value is read back from every key with a short name. By induction on the
writes from their end.
-/
theorem preReadxNvs_escribeClaves (largo : NvsError) (nvs : Almacen)
    (escrituras : List (KeyValue × UInt16)) {key : KeyValue} (corto : key ≠ .toldoSuperior)
    : preReadxNvs (escribeClaves nvs escrituras) key largo
      = (ultimo escrituras key).getD (preReadxNvs nvs key largo) := by
  induction escrituras using List.reverseRecOn with
  | nil => rfl
  | append_singleton before escritura ih =>
      have written : escribeClaves nvs (before ++ [escritura])
          = preWritexNvs (escribeClaves nvs before) escritura.1 escritura.2 :=
        List.foldl_append
      have last : ultimo (before ++ [escritura]) key
          = if escritura.1 = key then some escritura.2 else ultimo before key :=
        List.foldl_append
      rw [written, last, preReadxNvs_preWritexNvs, ih]
      by_cases here : escritura.1 = key
      · rw [if_pos ⟨here, here ▸ corto⟩, if_pos here, Option.getD_some]
      · rw [if_neg fun both => here both.1, if_neg here]

/-- A write is kept exactly if its key is not the one with the long name or its value is the one
that stands for the error of a long name; a run of writes is kept exactly if the last one to that
key, if there is one, has that value.
-/
theorem preWritexNvs_conserva_iff (largo : NvsError) (nvs : Almacen)
    : (∀ key valor, Conserva largo nvs key valor ↔ key ≠ .toldoSuperior ∨ valor = largo.marca)
      ∧ ∀ escrituras, ConservaTodas largo nvs escrituras
          ↔ ∀ valor, ultimo escrituras .toldoSuperior = some valor → valor = largo.marca := by
  refine ⟨conserva_iff largo nvs, fun escrituras => ⟨fun kept valor last => ?_, fun mark key => ?_⟩⟩
  · have read := kept .toldoSuperior
    rw [preReadxNvs_toldoSuperior, last, Option.getD_some] at read
    exact read.symm
  · by_cases excede : key = .toldoSuperior
    · subst excede
      rw [preReadxNvs_toldoSuperior, preReadxNvs_toldoSuperior]
      cases last : ultimo escrituras .toldoSuperior with
      | none => rfl
      | some valor => rw [Option.getD_some, mark valor last]
    · exact preReadxNvs_escribeClaves largo nvs escrituras excede

/-- The port 7 of the upper awning is lost, whichever error a long name gives. -/
theorem preWritexNvs_toldoSuperior
    : ¬Conserva .notFound Registers.Store.empty .toldoSuperior 7
      ∧ ¬Conserva .otro Registers.Store.empty .toldoSuperior 7 := by
  constructor
  all_goals
    intro kept
    have read := kept.1
    rw [preReadxNvs_toldoSuperior] at read
    exact absurd read (by decide)

end EspHttpControl.Nvs
