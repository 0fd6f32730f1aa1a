import Mathlib.Data.List.Iterate
import EspHttpControl.Flash.Verificacion

/-! The pages that `writeTask` and `readTask` walk through, and what they find in the block.
-/

namespace EspHttpControl.Flash

open CText
open Serial (EspErr)

variable {σ : Type*} {n : Nat}

/-- A call of the page function: the line, the address and the block that it is given. -/
structure Visita (σ : Type*) (n : Nat) where
  linea : Linea σ
  address : Direccion
  data : Vector Byte n

/-- The calls that a page loop makes of its page function. -/
def visitas (page : Linea σ → Direccion → Vector Byte n → EspErr × Linea σ × Vector Byte n)
    (l : Linea σ) (address : Direccion) (block : Vector Byte n) (file : List Byte)
    : List (Visita σ n) :=
  if file = [] then []
  else
    let data := overlay block (file.take 256)
    let done := page l address data
    ⟨l, address, data⟩ ::
      if done.1 = .espFail then []
      else visitas page done.2.1 (incrementLoadAddress address)
        (overlay done.2.2 (List.replicate 256 0xff)) (file.drop 256)
termination_by file.length
decreasing_by
  next some' _ =>
    have positive := List.length_pos_iff.mpr some'
    rw [List.length_drop]
    omega

/-- The law of a page loop: page after page from an address on, up to the first one that fails
or to the end of the file.
-/
structure Recorrido (pasada : Pasada σ n) (a : Nat) (file : List Byte) : Prop where
  direcciones : pasada.paginas.map (·.address.valor)
    = (List.range pasada.paginas.length).map fun k => a + 256 * k
  termina :
    (pasada.err = .espOk ∧ pasada.paginas.length = paginasDe file
      ∧ ∀ pagina ∈ pasada.paginas, pagina.err = .espOk)
    ∨ (pasada.err = .espFail ∧ pasada.paginas.length ≤ paginasDe file
      ∧ ∃ before last, pasada.paginas = before ++ [last] ∧ last.err = .espFail
        ∧ ∀ pagina ∈ before, pagina.err = .espOk)

/-- Behind the last byte of the file the pages are padded as erased flash. -/
def Rellenas (pages : List (Visita σ 256)) (file : List Byte) : Prop :=
  ∀ (k : Nat) (visita : Visita σ 256), pages[k]? = some visita
    → ∀ (i : Nat) (inside : i < 256), file.length ≤ 256 * k + i → visita.data[i] = 0xFF

variable (d : Dispositivo σ)

/-- The calls of `flashPage` that `writeTask` makes. -/
def paginasEscritas (l : Linea σ) (file : List Byte) : List (Visita σ 256) :=
  visitas (escribePagina d) (setupSTM d l) inicio (Vector.replicate 256 0) file

-----------------------------------------------------------------------------------------
-- The addresses
-----------------------------------------------------------------------------------------

section Direcciones

variable {page : Linea σ → Direccion → Vector Byte n → EspErr × Linea σ × Vector Byte n}

/-- A page that goes through is followed by the calls for the rest of the file. -/
theorem visitas_sigue {l l' : Linea σ} {address : Direccion} {block block' : Vector Byte n}
    {file : List Byte} (some' : file ≠ [])
    (went : page l address (overlay block (file.take 256)) = (.espOk, l', block'))
    : visitas page l address block file
      = ⟨l, address, overlay block (file.take 256)⟩ ::
          visitas page l' (incrementLoadAddress address)
            (overlay block' (List.replicate 256 0xff)) (file.drop 256) := by
  rw [visitas, if_neg some']
  dsimp only
  rw [went]
  rfl

/-- The passes of the loop are the calls with their results, by induction on the pages. -/
theorem paginas_eq_visitas (l : Linea σ) (address : Direccion) (block : Vector Byte n)
    (file : List Byte)
    : (porPaginas page l address block file).paginas
      = (visitas page l address block file).map fun visita =>
          let done := page visita.linea visita.address visita.data
          ⟨visita.address, done.2.2, done.1⟩ := by
  fun_induction visitas page l address block file with
  | case1 l address block =>
      rw [porPaginas_nil]
      rfl
  | case2 l address block file some' data done ih =>
      rw [porPaginas_cons some']
      dsimp only
      split
      · rfl
      · rw [List.map_cons, ← ih]

/-- Each pass goes to the address behind that of the pass before it. -/
theorem porPaginas_direcciones (l : Linea σ) (address : Direccion) (block : Vector Byte n)
    (file : List Byte)
    : (porPaginas page l address block file).paginas.map (·.address)
      = List.iterate incrementLoadAddress address
          (porPaginas page l address block file).paginas.length := by
  fun_induction visitas page l address block file with
  | case1 l address block =>
      rw [porPaginas_nil]
      rfl
  | case2 l address block file some' data done ih =>
      rw [porPaginas_cons some']
      dsimp only
      split
      · rfl
      · rw [List.map_cons, ih, List.length_cons, List.iterate]

variable (page) in
/-- The loop ends behind the last page of the file or behind the first page that fails. -/
theorem porPaginas_termina (l : Linea σ) (address : Direccion) (block : Vector Byte n)
    (file : List Byte)
    : let pasada := porPaginas page l address block file
      (pasada.err = .espOk ∧ pasada.paginas.length = paginasDe file
        ∧ ∀ pagina ∈ pasada.paginas, pagina.err = .espOk)
      ∨ (pasada.err = .espFail ∧ pasada.paginas.length ≤ paginasDe file
        ∧ ∃ before last, pasada.paginas = before ++ [last] ∧ last.err = .espFail
          ∧ ∀ pagina ∈ before, pagina.err = .espOk) := by
  fun_induction visitas page l address block file with
  | case1 l address block =>
      rw [porPaginas_nil]
      exact Or.inl ⟨rfl, rfl, fun pagina member => absurd member List.not_mem_nil⟩
  | case2 l address block file some' data done ih =>
      rw [porPaginas_cons some', paginasDe_cons some']
      dsimp only
      by_cases failed : done.1 = .espFail
      · rw [if_pos failed]
        refine Or.inr ⟨rfl, by simp, [], _, rfl, failed, ?_⟩
        exact fun pagina member => absurd member List.not_mem_nil
      · have went : done.1 = .espOk := by
          cases result : done.1 with
          | espOk => rfl
          | espFail => exact absurd result failed
        rw [if_neg failed]
        rcases ih with ⟨ok, all, good⟩ | ⟨stopped, few, before, last, split', bad, good⟩
        · refine Or.inl ⟨ok, by rw [List.length_cons, all], ?_⟩
          intro pagina member
          rcases List.mem_cons.mp member with rfl | later
          · exact went
          · exact good pagina later
        · refine Or.inr ⟨stopped, Nat.succ_le_succ few, ⟨address, done.2.2, done.1⟩ :: before, last,
            congrArg _ split', bad, ?_⟩
          intro pagina member
          rcases List.mem_cons.mp member with rfl | later
          · exact went
          · exact good pagina later

/-- As long as the addresses stay below `2^32`, each increment goes one page on. -/
theorem valor_iterate {address : Direccion} (k : Nat)
    (room : address.valor + 256 * k < 4294967296)
    : (incrementLoadAddress^[k] address).valor = address.valor + 256 * k := by
  induction k with
  | zero => rw [Function.iterate_zero_apply, Nat.mul_zero, Nat.add_zero]
  | succ k ih =>
      rw [Nat.mul_succ, ← Nat.add_assoc] at room
      have here := ih (Nat.lt_of_le_of_lt (Nat.le_add_right _ _) room)
      rw [Function.iterate_succ_apply', valor_incrementLoadAddress (by rwa [here]), here,
        Nat.mul_succ, Nat.add_assoc]

/-- A page loop that starts at the flash follows the law, whatever its pages return. -/
theorem porPaginas_recorrido (l : Linea σ) (block : Vector Byte n) {file : List Byte}
    (short : file.length < 256 * (2 ^ 24 - 0x080000))
    : Recorrido (porPaginas page l inicio block file) 0x08000000 file := by
  have ends := porPaginas_termina page l inicio block file
  refine ⟨?_, ends⟩
  have few : (porPaginas page l inicio block file).paginas.length ≤ paginasDe file := by
    rcases ends with ⟨-, all, -⟩ | ⟨-, some', -⟩
    · exact all.le
    · exact some'
  have start : inicio.valor = 0x08000000 := by decide
  calc (porPaginas page l inicio block file).paginas.map (·.address.valor)
      = ((porPaginas page l inicio block file).paginas.map (·.address)).map (·.valor) := by
        rw [List.map_map]
        rfl
    _ = _ := by
        rw [porPaginas_direcciones, ← List.range_map_iterate, List.map_map]
        apply List.map_congr_left
        intro k member
        have below : k < paginasDe file := Nat.lt_of_lt_of_le (List.mem_range.mp member) few
        rw [paginasDe] at below
        rw [Function.comp_apply, valor_iterate k (by rw [start]; omega), start]

end Direcciones

/-- Both passes follow one law; a complete write and a complete read visit the same pages in the
same order.
-/
theorem writeTask_readTask_paginas {file : List Byte}
    (short : file.length < 256 * (2 ^ 24 - 0x080000)) (l l' : Linea σ)
    : Recorrido (writeTask d l file) 0x08000000 file
      ∧ Recorrido (readTask d l' file) 0x08000000 file
      ∧ ((writeTask d l file).err = .espOk → (readTask d l' file).err = .espOk
        → (readTask d l' file).paginas.map (·.address)
          = (writeTask d l file).paginas.map (·.address)) := by
  have write : Recorrido (writeTask d l file) 0x08000000 file := porPaginas_recorrido _ _ short
  have read : Recorrido (readTask d l' file) 0x08000000 file := porPaginas_recorrido _ _ short
  refine ⟨write, read, fun wrote readBack => ?_⟩
  have complete {m : Nat} {pasada : Pasada σ m} (law : Recorrido pasada 0x08000000 file)
      (ok : pasada.err = .espOk)
      : pasada.paginas.length = paginasDe file := by
    rcases law.termina with ⟨-, all, -⟩ | ⟨stopped, -, -⟩
    · exact all
    · exact absurd (ok.symm.trans stopped) (by decide)
  have written := complete write wrote
  have seen := complete read readBack
  rw [writeTask] at written ⊢
  rw [readTask] at seen ⊢
  rw [porPaginas_direcciones, porPaginas_direcciones, written, seen]

/-- A write of two pages and the read behind it, on a device that stores what it is sent. -/
theorem writeTask_readTask_dos_paginas
    : Recorrido (writeTask borrada encendida (List.replicate 257 0)) 0x08000000
          (List.replicate 257 0)
      ∧ Recorrido (readTask borrada encendida (List.replicate 257 0)) 0x08000000
          (List.replicate 257 0)
      ∧ ((writeTask borrada encendida (List.replicate 257 0)).err = .espOk
        → (readTask borrada encendida (List.replicate 257 0)).err = .espOk
        → (readTask borrada encendida (List.replicate 257 0)).paginas.map (·.address)
          = (writeTask borrada encendida (List.replicate 257 0)).paginas.map (·.address)) :=
  writeTask_readTask_paginas borrada (by rw [List.length_replicate]; decide) encendida encendida

-----------------------------------------------------------------------------------------
-- The padding
-----------------------------------------------------------------------------------------

/-- The block is erased when the loop comes to a short page. By induction on the pages: each
pass leaves the block erased, so that only the first one depends on what the block was.
-/
theorem visitas_rellenas (l : Linea σ) (address : Direccion) (block : Vector Byte 256)
    (file : List Byte) (erased : file.length < 256 → file ≠ [] → block = Vector.replicate 256 0xFF)
    : Rellenas (visitas (escribePagina d) l address block file) file := by
  fun_induction visitas (escribePagina d) l address block file with
  | case1 l address block =>
      intro k visita found
      rw [List.getElem?_nil] at found
      exact absurd found (Option.some_ne_none visita).symm
  | case2 l address block file some' data done ih =>
      intro k visita found i inside behind
      cases k with
      | zero =>
          obtain rfl := Option.some.inj found
          have short : file.length < 256 := by omega
          have front : (file.take 256).length ≤ i := by
            rw [List.length_take]
            omega
          dsimp only [data]
          rw [overlay_behind inside front, erased short some', Vector.getElem_replicate]
      | succ k =>
          rw [List.getElem?_cons_succ] at found
          have left : overlay done.2.2 (List.replicate 256 0xff) = Vector.replicate 256 0xFF :=
            overlay_replicate done.2.2 0xff
          by_cases failed : done.1 = .espFail
          · rw [if_pos failed, List.getElem?_nil] at found
            exact absurd found (Option.some_ne_none visita).symm
          · rw [if_neg failed] at found
            refine ih (fun _ _ => left) k visita found i inside ?_
            rw [List.length_drop]
            omega

/-- The first page that is sent has the bytes of the file over the block as it was at first. -/
theorem paginasEscritas_primera (l : Linea σ) {file : List Byte} (some' : file ≠ [])
    : (paginasEscritas d l file)[0]?
      = some ⟨setupSTM d l, inicio, overlay (Vector.replicate 256 0) (file.take 256)⟩ := by
  rw [paginasEscritas, visitas, if_neg some']
  rfl

/-- The last page is padded as erased flash exactly if there is none or a whole page comes
before its padding: a file shorter than one page is padded with the zeros that the block holds at
the start.
-/
theorem writeTask_rellenas_iff (l : Linea σ) (file : List Byte)
    : Rellenas (paginasEscritas d l file) file ↔ file = [] ∨ 256 ≤ file.length := by
  constructor
  · intro padded
    by_contra neither
    obtain ⟨some', short⟩ := not_or.mp neither
    have front : (file.take 256).length ≤ 255 := by
      rw [List.length_take]
      omega
    have last := padded 0 _ (paginasEscritas_primera d l some') 255 (by decide) (by omega)
    rw [overlay_behind (by decide) front, Vector.getElem_replicate] at last
    exact absurd last (by decide)
  · intro whole
    refine visitas_rellenas d (setupSTM d l) inicio (Vector.replicate 256 0) file ?_
    intro short some'
    rcases whole with none' | long
    · exact absurd none' some'
    · omega

/-- A file of one byte is followed by zeros. -/
theorem writeTask_un_byte : ¬Rellenas (paginasEscritas borrada encendida [0x12]) [0x12] := by
  intro padded
  have first := paginasEscritas_primera borrada encendida (List.cons_ne_nil (0x12 : Byte) [])
  have last := padded 0 _ first 1 (by decide) (by decide)
  rw [overlay_behind (by decide) (by decide), Vector.getElem_replicate] at last
  exact absurd last (by decide)

end EspHttpControl.Flash
