import EspHttpControl.Flash.ProMode

/-! Writing a file to the flash of the STM32 and reading it back, page by page. -/

namespace EspHttpControl.Flash

open CText
open Serial (EspErr)

/-- `fread` of up to 256 bytes: their number, the block that they overwrite and the rest. -/
def fread {n : Nat} (block : Vector Byte n) (file : List Byte)
    : Nat × Vector Byte n × List Byte :=
  ((file.take 256).length, overlay block (file.take 256), file.drop 256)

/-- One pass of a page loop: the address, the block behind the call and its result. -/
structure Pagina (n : Nat) where
  address : Direccion
  block : Vector Byte n
  err : EspErr

/-- What a page loop leaves: its result, the line and the passes that it made. -/
structure Pasada (σ : Type*) (n : Nat) where
  err : EspErr
  linea : Linea σ
  paginas : List (Pagina n)

variable {σ : Type*}

/-- The loop of `writeTask` and of `readTask`, which differ in the page function and in the size
of the block; each pass ends with the first 256 cells of the block set to `0xff`.
-/
def porPaginas {n : Nat}
    (page : Linea σ → Direccion → Vector Byte n → EspErr × Linea σ × Vector Byte n)
    (l : Linea σ) (address : Direccion) (block : Vector Byte n) (file : List Byte)
    : Pasada σ n :=
  let read := fread block file
  if 0 < read.1 then
    let done := page l address read.2.1
    let pagina : Pagina n := ⟨address, done.2.2, done.1⟩
    if done.1 = .espFail then ⟨.espFail, done.2.1, [pagina]⟩
    else
      let later := porPaginas page done.2.1 (incrementLoadAddress address)
        (overlay done.2.2 (List.replicate 256 0xff)) read.2.2
      { later with paginas := pagina :: later.paginas }
  else ⟨.espOk, l, []⟩
termination_by file.length
decreasing_by
  next more _ =>
    have some' : 0 < (file.take 256).length := more
    rw [List.length_take] at some'
    simp only [fread, List.length_drop]
    omega

/-- `{0x08, 0x00, 0x00, 0x00}` -/
def inicio : Direccion := ⟨0x08, 0x00, 0x00, 0x00⟩

variable (d : Dispositivo σ)

/-- The call of `flashPage`, which leaves the block as it is. -/
def escribePagina (l : Linea σ) (address : Direccion) (block : Vector Byte 256)
    : EspErr × Linea σ × Vector Byte 256 :=
  let written := flashPage d l address block
  (written.1, written.2, block)

def writeTask (l : Linea σ) (file : List Byte) : Pasada σ 256 :=
  porPaginas (escribePagina d) (setupSTM d l) inicio (Vector.replicate 256 0) file

def readTask (l : Linea σ) (file : List Byte) : Pasada σ 257 :=
  porPaginas (readPage d) l inicio (Vector.replicate 257 0) file

/-- What `flashSTM` returns, the line behind it and the pages that were read back. -/
structure Flasheo (σ : Type*) where
  err : EspErr
  linea : Linea σ
  leidas : List (Pagina 257)

/-- `flashSTM`; without a file there is nothing to write, and `fclose` of the null pointer does
nothing.
-/
def flashSTM (l : Linea σ) (file : Option (List Byte)) : Flasheo σ :=
  let l := initGpio d l
  match file with
  | none => ⟨.espFail, endConn d l, []⟩
  | some file =>
    let written := writeTask d l file
    if written.err = .espOk then
      let read := readTask d written.linea file
      ⟨read.err, endConn d read.linea, read.paginas⟩
    else ⟨written.err, endConn d written.linea, []⟩

-----------------------------------------------------------------------------------------
-- The page loop
-----------------------------------------------------------------------------------------

variable {n : Nat}
  {page : Linea σ → Direccion → Vector Byte n → EspErr × Linea σ × Vector Byte n}
  {l : Linea σ} {address : Direccion} {block : Vector Byte n} {file : List Byte}

theorem porPaginas_nil : porPaginas page l address block [] = ⟨.espOk, l, []⟩ := by
  rw [porPaginas]
  rfl

theorem porPaginas_cons (some' : file ≠ [])
    : porPaginas page l address block file
      = let done := page l address (overlay block (file.take 256))
        let pagina : Pagina n := ⟨address, done.2.2, done.1⟩
        if done.1 = .espFail then ⟨.espFail, done.2.1, [pagina]⟩
        else
          let later := porPaginas page done.2.1 (incrementLoadAddress address)
            (overlay done.2.2 (List.replicate 256 0xff)) (file.drop 256)
          { later with paginas := pagina :: later.paginas } := by
  have more : 0 < (file.take 256).length := by
    have positive := List.length_pos_iff.mpr some'
    rw [List.length_take]
    omega
  rw [porPaginas]
  exact if_pos more

/-- A page that fails ends the loop. -/
theorem porPaginas_falla (some' : file ≠ [])
    (failed : (page l address (overlay block (file.take 256))).1 = .espFail)
    : (porPaginas page l address block file).err = .espFail := by
  rw [porPaginas_cons some']
  simp only [failed, if_true]

/-- A page that goes through is followed by the pages of the rest of the file. -/
theorem porPaginas_sigue (some' : file ≠ []) {l' : Linea σ} {block' : Vector Byte n}
    (went : page l address (overlay block (file.take 256)) = (.espOk, l', block'))
    : porPaginas page l address block file
      = let later := porPaginas page l' (incrementLoadAddress address)
          (overlay block' (List.replicate 256 0xff)) (file.drop 256)
        { later with paginas := ⟨address, block', .espOk⟩ :: later.paginas } := by
  rw [porPaginas_cons some', went]
  rfl

/-- The number of pages that a file takes. -/
def paginasDe (file : List Byte) : Nat := (file.length + 255) / 256

theorem paginasDe_eq_zero (pages : paginasDe file = 0) : file = [] := by
  apply List.eq_nil_of_length_eq_zero
  rw [paginasDe] at pages
  omega

/-- Behind the first page of a file there is one page less. -/
theorem paginasDe_cons (some' : file ≠ [])
    : paginasDe file = paginasDe (file.drop 256) + 1 := by
  have positive := List.length_pos_iff.mpr some'
  simp only [paginasDe, List.length_drop]
  omega

theorem paginasDe_succ {more : Nat} (pages : paginasDe file = more + 1)
    : file ≠ [] ∧ paginasDe (file.drop 256) = more := by
  have some' : file ≠ [] := by
    rintro rfl
    exact absurd pages (Nat.succ_ne_zero more).symm
  exact ⟨some', Nat.succ.inj ((paginasDe_cons some').symm.trans pages)⟩

/-- Where another page follows and fits, its address is that of the page one page on. -/
theorem valor_siguiente (room : address.valor + 256 * (paginasDe file + 1) ≤ 4294967296)
    (left : file ≠ [])
    : (incrementLoadAddress address).valor = address.valor + 256 := by
  apply valor_incrementLoadAddress
  have positive := List.length_pos_iff.mpr left
  rw [paginasDe] at room
  omega

end EspHttpControl.Flash
