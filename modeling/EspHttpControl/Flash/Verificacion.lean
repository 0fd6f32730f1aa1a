import EspHttpControl.Flash.Escritura

/-! What the result of `flashSTM` says about the flash.
The messages to the device follow from the file alone, so that its answers to the pages are a
dialogue of their own, to be compared with the two loops.
-/

namespace EspHttpControl.Flash

open CText
open Serial (EspErr)

variable {σ : Type*} {n : Nat}

/-- The answers to the pages of a file, whatever they say; `left` is the block behind one. -/
def respuestas (answer : Linea σ → Direccion → Vector Byte n → List Byte × Linea σ)
    (left : List Byte → Vector Byte n → Vector Byte n)
    (l : Linea σ) (address : Direccion) (block : Vector Byte n) (file : List Byte)
    : List (List Byte) × Linea σ :=
  if file = [] then ([], l)
  else
    let page := overlay block (file.take 256)
    let read := answer l address page
    let later := respuestas answer left read.2 (incrementLoadAddress address)
      (overlay (left read.1 page) (List.replicate 256 0xff)) (file.drop 256)
    (read.1 :: later.1, later.2)
termination_by file.length
decreasing_by
  next some' =>
    have positive := List.length_pos_iff.mpr some'
    rw [List.length_drop]
    omega

/-- Every answer starts with `ACK`. -/
def Confirmadas (answers : List (List Byte)) : Prop := ∀ answer ∈ answers, answer.head? = some ack

variable (d : Dispositivo σ)

/-- The answers to the pages that are written. -/
def escrituras (l : Linea σ) (file : List Byte) : List (List Byte) × Linea σ :=
  respuestas (respuestaEscritura d) (fun _ page => page) (setupSTM d l) inicio
    (Vector.replicate 256 0) file

/-- The answers to the pages that are read back. -/
def lecturas (l : Linea σ) (file : List Byte) : List (List Byte) × Linea σ :=
  respuestas (fun l address _ => respuestaLectura d l address)
    (fun answer page => overlay page (answer.take 257)) l inicio (Vector.replicate 257 0) file

/-- The bytes of a page in an answer, behind its `ACK`. -/
def bytesDe (answer : List Byte) : List Byte := (answer.take 257).drop 1

/-- The bytes that were read back, page after page. -/
def Flasheo.devueltos (r : Flasheo σ) : List Byte :=
  r.leidas.flatMap fun pagina => pagina.block.toList.drop 1

/-- The device confirms each page of the file, when it is written and when it is read back. -/
def Confirma (l : Linea σ) (file : List Byte) : Prop :=
  let written := escrituras d (initGpio d l) file
  Confirmadas written.1 ∧ Confirmadas (lecturas d written.2 file).1

/-- The device returns the bytes of the file when its pages are read back. -/
def Devuelve (l : Linea σ) (file : List Byte) : Prop :=
  let written := escrituras d (initGpio d l) file
  ((lecturas d written.2 file).1.flatMap bytesDe).take file.length = file

-----------------------------------------------------------------------------------------
-- The loops against the dialogue
-----------------------------------------------------------------------------------------

section Dialogo

variable {answer : Linea σ → Direccion → Vector Byte n → List Byte × Linea σ}
  {left : List Byte → Vector Byte n → Vector Byte n}
  {page : Linea σ → Direccion → Vector Byte n → EspErr × Linea σ × Vector Byte n}

/-- A page function that succeeds exactly if the answer starts with `ACK`. -/
def SegunRespuesta (answer : Linea σ → Direccion → Vector Byte n → List Byte × Linea σ)
    (left : List Byte → Vector Byte n → Vector Byte n)
    (page : Linea σ → Direccion → Vector Byte n → EspErr × Linea σ × Vector Byte n)
    : Prop :=
  ∀ l address block,
    page l address block
      = if (answer l address block).1.head? = some ack then
          (.espOk, (answer l address block).2, left (answer l address block).1 block)
        else (.espFail, (answer l address block).2, block)

/-- A file of one page has one answer. -/
theorem respuestas_pagina {l : Linea σ} {address : Direccion} {block : Vector Byte n}
    {file : List Byte} (some' : file ≠ []) (short : file.length ≤ 256)
    : respuestas answer left l address block file
      = ([(answer l address (overlay block file)).1],
          (answer l address (overlay block file)).2) := by
  rw [respuestas, if_neg some', List.drop_of_length_le short, List.take_of_length_le short]
  dsimp only
  rw [respuestas, if_pos rfl]

/-- The loop succeeds exactly if all answers start with `ACK`; then it leaves the line where the
dialogue does, and its blocks show what the answers told. By induction on the pages.
-/
theorem porPaginas_respuestas (shape : SegunRespuesta answer left page)
    (seen : Vector Byte n → List Byte) (told : List Byte → List Byte)
    (shown : ∀ l address block, (answer l address block).1.head? = some ack
      → seen (left (answer l address block).1 block) = told (answer l address block).1)
    (l : Linea σ) (address : Direccion) (block : Vector Byte n) (file : List Byte)
    : ((porPaginas page l address block file).err = .espOk
        ↔ Confirmadas (respuestas answer left l address block file).1)
      ∧ (Confirmadas (respuestas answer left l address block file).1
        → (porPaginas page l address block file).linea
            = (respuestas answer left l address block file).2
          ∧ (porPaginas page l address block file).paginas.flatMap (fun p => seen p.block)
            = (respuestas answer left l address block file).1.flatMap told) := by
  fun_induction respuestas answer left l address block file with
  | case1 l address block =>
      rw [porPaginas_nil]
      exact ⟨⟨fun _ => by simp [Confirmadas], fun _ => rfl⟩, fun _ => ⟨rfl, rfl⟩⟩
  | case2 l address block file some' data read later ih =>
      have made := shape l address data
      by_cases confirmed : read.1.head? = some ack
      · have went : page l address data = (.espOk, read.2, left read.1 data) := by
          rw [made, if_pos confirmed]
        have all : Confirmadas (read.1 :: later.1) ↔ Confirmadas later.1 := by
          simp [Confirmadas, confirmed]
        rw [porPaginas_sigue some' went]
        dsimp only
        rw [all]
        refine ⟨ih.1, fun confirmadas => ?_⟩
        obtain ⟨line, blocks⟩ := ih.2 confirmadas
        refine ⟨line, ?_⟩
        rw [List.flatMap_cons, List.flatMap_cons, blocks, shown l address data confirmed]
      · have failed : (page l address data).1 = .espFail := by
          rw [made, if_neg confirmed]
        have refused : ¬Confirmadas (read.1 :: later.1) :=
          fun confirmadas => confirmed (confirmadas read.1 List.mem_cons_self)
        rw [porPaginas_falla some' failed]
        exact ⟨⟨fun ok => absurd ok (by decide), fun c => absurd c refused⟩,
          fun c => absurd c refused⟩

end Dialogo

theorem escribePagina_segun
    : SegunRespuesta (respuestaEscritura d) (fun _ page => page) (escribePagina d) := by
  intro l address block
  rw [escribePagina, flashPage]
  split <;> rfl

theorem readPage_segun
    : SegunRespuesta (fun l address _ => respuestaLectura d l address)
        (fun answer page => overlay page (answer.take 257)) (readPage d) :=
  fun _ _ _ => rfl

/-- Only as many bytes as were asked for are read, by induction on the time left. -/
theorem waitForSerialData_enough (l : Linea σ) (dataCount timeout : Nat)
    : (waitForSerialData d l dataCount timeout).1 = 0
      ∨ dataCount ≤ (waitForSerialData d l dataCount timeout).1
        ∧ (waitForSerialData d l dataCount timeout).1
          = (waitForSerialData d l dataCount timeout).2.rx.length := by
  induction timeout generalizing l with
  | zero => exact Or.inl rfl
  | succ timeout ih =>
      rw [waitForSerialData]
      split
      · next enough => exact Or.inr ⟨enough, rfl⟩
      · exact ih (vTaskDelay d l 1)

/-- An answer has at least as many bytes as were waited for. -/
theorem respuesta_length {l : Linea σ} {dataCount : Nat} (some' : (respuesta d l dataCount).1 ≠ [])
    : dataCount ≤ (respuesta d l dataCount).1.length := by
  rw [respuesta] at some' ⊢
  split
  · next positive =>
    rcases waitForSerialData_enough d l dataCount serialTimeout with none' | ⟨enough, whole⟩
    · omega
    · rw [uartReadBytes, whole, List.take_length, ← whole]
      exact enough
  · next negative =>
    rw [if_neg negative] at some'
    exact absurd rfl some'

theorem toList_overlay_take {answer : List Byte} (enough : n ≤ answer.length) (block : Vector Byte n)
    : (overlay block (answer.take n)).toList = answer.take n :=
  toList_overlay (List.length_take_of_le enough) block

/-- The block behind a page that was read shows the bytes of the answer. -/
theorem block_leido (l : Linea σ) (address : Direccion) (block : Vector Byte 257)
    (confirmed : (respuestaLectura d l address).1.head? = some ack)
    : (overlay block ((respuestaLectura d l address).1.take 257)).toList.drop 1
      = bytesDe (respuestaLectura d l address).1 := by
  have some' : (respuestaLectura d l address).1 ≠ [] := by
    intro none'
    rw [none'] at confirmed
    exact Option.some_ne_none _ confirmed.symm
  have enough : 257 ≤ (respuestaLectura d l address).1.length := by
    rw [respuestaLectura] at some' ⊢
    exact respuesta_length d some'
  rw [bytesDe, toList_overlay_take enough]

/-- `flashSTM` against the answers of the device. -/
theorem flashSTM_ok_iff (l : Linea σ) (file : List Byte)
    : ((flashSTM d l (some file)).err = .espOk ↔ Confirma d l file)
      ∧ (Confirma d l file
        → (flashSTM d l (some file)).devueltos
          = (lecturas d (escrituras d (initGpio d l) file).2 file).1.flatMap bytesDe) := by
  rw [flashSTM]
  dsimp only
  obtain ⟨writtenOk, writtenLine⟩ := porPaginas_respuestas (escribePagina_segun d)
    (fun _ => []) (fun _ => []) (fun _ _ _ _ => rfl) (setupSTM d (initGpio d l)) inicio
    (Vector.replicate 256 0) file
  have line (confirmadas : Confirmadas (escrituras d (initGpio d l) file).1)
      : (writeTask d (initGpio d l) file).linea = (escrituras d (initGpio d l) file).2 :=
    (writtenLine confirmadas).1
  obtain ⟨readOk, readBlocks⟩ := porPaginas_respuestas (readPage_segun d)
    (fun block => block.toList.drop 1) bytesDe
    (fun l address block => block_leido d l address block)
    (escrituras d (initGpio d l) file).2 inicio (Vector.replicate 257 0) file
  by_cases wrote : (writeTask d (initGpio d l) file).err = .espOk
  · have confirmadas := writtenOk.mp wrote
    simp only [wrote, if_true, line confirmadas]
    constructor
    · exact readOk.trans ⟨fun c => ⟨confirmadas, c⟩, fun c => c.2⟩
    · exact fun c => (readBlocks c.2).2
  · have refused : ¬Confirma d l file := fun c => wrote (writtenOk.mpr c.1)
    simp only [wrote, if_false, false_iff]
    exact ⟨refused, fun c => absurd c refused⟩

/-- The result of `flashSTM` says that the device returned the file exactly if it says so anyway:
the device left some page unconfirmed, or it returned the bytes of the file. What was read back
is compared with nothing.
-/
theorem flashSTM_verificado_iff (l : Linea σ) (file : List Byte)
    : ((flashSTM d l (some file)).err = .espOk
        → (flashSTM d l (some file)).devueltos.take file.length = file)
      ↔ ¬Confirma d l file ∨ Devuelve d l file := by
  obtain ⟨ok, returned⟩ := flashSTM_ok_iff d l file
  constructor
  · intro verified
    by_cases confirma : Confirma d l file
    · refine Or.inr ?_
      have same := verified (ok.mpr confirma)
      rw [returned confirma] at same
      exact same
    · exact Or.inl confirma
  · intro alternatives success
    have confirma := ok.mp success
    rw [returned confirma]
    exact alternatives.resolve_left fun unconfirmed => unconfirmed confirma

/-- A device that stores what it is sent and confirms everything, but reads as erased. -/
def borrada : Dispositivo Stm32 := stm32 fun _ => 0xff

theorem flashSTM_sin_comparar
    : (flashSTM borrada encendida (some [0x12])).err = .espOk
      ∧ (flashSTM borrada encendida (some [0x12])).devueltos.take 1 = [0xff] := by
  obtain ⟨ok, returned⟩ := flashSTM_ok_iff borrada encendida [0x12]
  obtain ⟨s, answered, ready, -, -⟩ := respuestaEscritura_bootloader (d := borrada)
    (stm32Bootloader fun _ => 0xff) (l := setupSTM borrada (initGpio borrada encendida)) rfl inicio
    (overlay (Vector.replicate 256 0) [0x12])
  have written : escrituras borrada (initGpio borrada encendida) [0x12] = ([[ack]], ⟨s, []⟩) := by
    rw [escrituras, respuestas_pagina (List.cons_ne_nil _ _) (by decide), answered]
  have read : (lecturas borrada ⟨s, []⟩ [0x12]).1
      = [ack :: (List.range' inicio.valor 256).map fun _ => 0xff] := by
    have page := stm32_respuestaLectura (fun _ => 0xff) (l := ⟨s, []⟩) ready inicio
    rw [lecturas, respuestas_pagina (List.cons_ne_nil _ _) (by decide)]
    exact congrArg (fun read => [read.1]) page
  have confirma : Confirma borrada encendida [0x12] := by
    rw [Confirma, written]
    dsimp only
    rw [read]
    constructor
    · exact fun answer member => List.mem_singleton.mp member ▸ rfl
    · exact fun answer member => List.mem_singleton.mp member ▸ rfl
  refine ⟨ok.mpr confirma, ?_⟩
  rw [returned confirma, written]
  dsimp only
  rw [read]
  rfl

end EspHttpControl.Flash
