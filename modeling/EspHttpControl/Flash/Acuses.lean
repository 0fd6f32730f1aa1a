import EspHttpControl.Flash.Paginas

/-! Which messages of a flashing were acknowledged when `flashSTM` reports success.
-/

namespace EspHttpControl.Flash

open CText
open Serial (EspErr)

variable {σ : Type*} (d : Dispositivo σ)

/-- In `setupSTM` the sync byte and one of the two erase commands with its parameters are
acknowledged.
-/
def PreparacionAcusada (l : Linea σ) : Prop :=
  let sync := cmdSync d (resetSTM d l)
  let erase := cmdErase d (cmdId d (cmdVersion d (cmdGet d sync.2).2).2).2
  sync.1 = true ∧ (erase.1 = true ∨ (cmdExtErase d erase.2).1 = true)

/-- The write command and the address of a page are acknowledged. -/
def Visita.OrdenAcusada (visita : Visita σ 256) : Prop :=
  let ordered := cmdWrite d visita.linea
  ordered.1 = true ∧ (loadAddress d ordered.2 visita.address).1 = true

/-- All three messages of a page are acknowledged. -/
def Visita.Acusada (visita : Visita σ 256) : Prop :=
  visita.OrdenAcusada d ∧ (flashPage d visita.linea visita.address visita.data).1 = .espOk

/-- What a success of `flashSTM` should rest on. -/
structure ExitoAcusado (l : Linea σ) (file : List Byte) : Prop where
  preparacion : PreparacionAcusada d (initGpio d l)
  todas : (paginasEscritas d (initGpio d l) file).length = paginasDe file
  acusadas : ∀ visita ∈ paginasEscritas d (initGpio d l) file, visita.Acusada d

/-- The pages that are sent if the loop goes on whatever is answered. -/
def paginasEnviadas (l : Linea σ) (file : List Byte) : List (Visita σ 256) :=
  visitas (fun l address page => (.espOk, (respuestaEscritura d l address page).2, page))
    (setupSTM d l) inicio (Vector.replicate 256 0) file

/-- The device acknowledges the preparation, and the write command and the address of each page
of the file.
-/
structure Acusa (l : Linea σ) (file : List Byte) : Prop where
  preparacion : PreparacionAcusada d (initGpio d l)
  ordenes : ∀ visita ∈ paginasEnviadas d (initGpio d l) file, visita.OrdenAcusada d

-----------------------------------------------------------------------------------------
-- The calls of the loop against the dialogue
-----------------------------------------------------------------------------------------

/-- If all data messages are acknowledged, the loop makes the calls of the dialogue. By induction
on the pages.
-/
theorem visitas_confirmadas (l : Linea σ) (address : Direccion) (block : Vector Byte 256)
    (file : List Byte)
    (confirmed : Confirmadas
      (respuestas (respuestaEscritura d) (fun _ page => page) l address block file).1)
    : visitas (escribePagina d) l address block file
      = visitas (fun l address page => (.espOk, (respuestaEscritura d l address page).2, page))
          l address block file := by
  fun_induction respuestas (respuestaEscritura d) (fun _ page => page) l address block file with
  | case1 l address block =>
      rw [visitas, visitas, if_pos rfl, if_pos rfl]
  | case2 l address block file some' data read later ih =>
      have here : read.1.head? = some ack := confirmed read.1 List.mem_cons_self
      have went : escribePagina d l address data = (.espOk, read.2, data) := by
        rw [escribePagina_segun d l address data, if_pos here]
      have rest := ih fun answer member => confirmed answer (List.mem_cons_of_mem _ member)
      rw [visitas_sigue some' went, rest, visitas_sigue some' rfl]

/-- All data messages of the calls are acknowledged if the loop goes through. -/
theorem flashPage_visitas {l : Linea σ} {file : List Byte}
    (ok : (writeTask d l file).err = .espOk)
    : (paginasEscritas d l file).length = paginasDe file
      ∧ ∀ visita ∈ paginasEscritas d l file,
          (flashPage d visita.linea visita.address visita.data).1 = .espOk := by
  have passes : (writeTask d l file).paginas
      = (paginasEscritas d l file).map fun visita =>
          let done := escribePagina d visita.linea visita.address visita.data
          ⟨visita.address, done.2.2, done.1⟩ :=
    paginas_eq_visitas (setupSTM d l) inicio (Vector.replicate 256 0) file
  rcases porPaginas_termina (escribePagina d) (setupSTM d l) inicio
    (Vector.replicate 256 0) file with ⟨-, all, good⟩ | ⟨stopped, -, -⟩
  · change (writeTask d l file).paginas.length = _ at all
    change ∀ pagina ∈ (writeTask d l file).paginas, _ at good
    rw [passes, List.length_map] at all
    rw [passes] at good
    refine ⟨all, fun visita member => ?_⟩
    exact good _ (List.mem_map_of_mem member)
  · exact absurd (ok.symm.trans stopped) (by decide)

/-- The success of `flashSTM` rests on every acknowledgement exactly if the device left some data
message or read-back unconfirmed, or acknowledged the preparation and the orders anyway: the
results of these exchanges are looked at by nobody.
-/
theorem flashSTM_acusado_iff (l : Linea σ) (file : List Byte)
    : ((flashSTM d l (some file)).err = .espOk → ExitoAcusado d l file)
      ↔ ¬Confirma d l file ∨ Acusa d l file := by
  have ok := (flashSTM_ok_iff d l file).1
  have same (confirma : Confirma d l file)
      : paginasEscritas d (initGpio d l) file = paginasEnviadas d (initGpio d l) file :=
    visitas_confirmadas d (setupSTM d (initGpio d l)) inicio (Vector.replicate 256 0) file
      confirma.1
  constructor
  · intro success
    by_cases confirma : Confirma d l file
    · have exito := success (ok.mpr confirma)
      refine Or.inr ⟨exito.preparacion, fun visita member => ?_⟩
      rw [← same confirma] at member
      exact (exito.acusadas visita member).1
    · exact Or.inl confirma
  · intro alternatives success
    have confirma := ok.mp success
    have acusa := alternatives.resolve_left fun unconfirmed => unconfirmed confirma
    have wrote : (writeTask d (initGpio d l) file).err = .espOk :=
      (porPaginas_respuestas (escribePagina_segun d) (fun _ => []) (fun _ => [])
        (fun _ _ _ _ => rfl) (setupSTM d (initGpio d l)) inicio (Vector.replicate 256 0)
        file).1.mpr confirma.1
    obtain ⟨all, good⟩ := flashPage_visitas d wrote
    refine ⟨acusa.preparacion, all, fun visita member => ⟨?_, good visita member⟩⟩
    exact acusa.ordenes visita (same confirma ▸ member)

-----------------------------------------------------------------------------------------
-- A device that refuses all but the data
-----------------------------------------------------------------------------------------

/-- A device that acknowledges no message but those that start with `0xFF`. It keeps the first byte
of a message, and answers while the card waits.
-/
def sorda : Dispositivo (Option Byte) where
  pin s _ _ := s
  recibe s byte := (some (s.getD byte), [])
  pausa s _ :=
    (none, s.elim [] fun first => List.replicate 257 (if first = 0xFF then ack else 0x1F))

/-- The device that waits for a message. -/
def atenta : Linea (Option Byte) := ⟨none, []⟩

/-- Only the first byte of a message counts, by induction on the rest of it. -/
theorem sorda_recibidos (byte : Byte) (rest : List Byte)
    : sorda.recibidos none (byte :: rest) = (some byte, []) := by
  induction rest using List.reverseRecOn with
  | nil => rfl
  | append_singleton rest last ih =>
      rw [← List.cons_append, Dispositivo.recibidos_concat, ih]
      rfl

/-- A message is answered within a millisecond by what the device makes of its first byte. -/
theorem sorda_contesta (byte : Byte) (rest : List Byte) {resp : Nat} (some' : 0 < resp)
    (few : resp ≤ 257)
    : Contesta sorda atenta (byte :: rest) resp
        (List.replicate 257 (if byte = 0xFF then ack else 0x1F)) none := by
  have sent : sendData sorda atenta (byte :: rest) = ⟨some byte, []⟩ := by
    rw [sendData_eq, atenta, sorda_recibidos]
    rfl
  refine ⟨1, by decide, ?_, ?_, ?_⟩
  · rw [sent]
    rfl
  · rw [List.length_replicate]
    exact few
  · intro k before
    obtain rfl : k = 0 := Nat.lt_one_iff.mp before
    rw [sent]
    exact some'

/-- A command is refused, whatever its parameters. -/
theorem sorda_sendBytes (byte : Byte) (rest : List Byte) {resp : Nat} (some' : 0 < resp)
    (few : resp ≤ 257) (refused : byte ≠ 0xFF)
    : sendBytes sorda atenta (byte :: rest) resp = (false, atenta) := by
  have different : (some (0x1F : Byte) = some ack) = False := by decide
  rw [(sorda_contesta byte rest some' few).sendBytes (List.cons_ne_nil _ _), if_neg refused,
    List.replicate_succ, List.head?_cons]
  simp only [different, decide_false]
  rfl

theorem sorda_setupSTM : setupSTM sorda atenta = atenta := by
  have reset : resetSTM sorda atenta = atenta := rfl
  have sync : cmdSync sorda atenta = (false, atenta) :=
    sorda_sendBytes 0x7F [] (by decide) (by decide) (by decide)
  have get : cmdGet sorda atenta = (false, atenta) :=
    sorda_sendBytes 0x00 [0xFF] (by decide) (by decide) (by decide)
  have version : cmdVersion sorda atenta = (false, atenta) :=
    sorda_sendBytes 0x01 [0xFE] (by decide) (by decide) (by decide)
  have id' : cmdId sorda atenta = (false, atenta) :=
    sorda_sendBytes 0x02 [0xFD] (by decide) (by decide) (by decide)
  have erase : cmdErase sorda atenta = (false, atenta) := by
    rw [cmdErase, sorda_sendBytes 0x43 [0xBC] (by decide) (by decide) (by decide)]
    rfl
  have extErase : cmdExtErase sorda atenta = (false, atenta) := by
    rw [cmdExtErase, sorda_sendBytes 0x44 [0xBB] (by decide) (by decide) (by decide)]
    rfl
  simp only [setupSTM, reset, sync, get, version, id', erase, extErase]

/-- The data message of a page is acknowledged. -/
theorem sorda_respuestaEscritura (address : Direccion) (data : Vector Byte 256)
    (direct : address.ms ≠ 0xFF)
    : ∃ answer, respuestaEscritura sorda atenta address data = (answer, atenta)
        ∧ answer.head? = some ack := by
  have order : cmdWrite sorda atenta = (false, atenta) :=
    sorda_sendBytes 0x31 [0xCE] (by decide) (by decide) (by decide)
  have load : loadAddress sorda atenta address = (false, atenta) :=
    sorda_sendBytes address.ms _ (by decide) (by decide) direct
  have sent := (sorda_contesta 0xFF (data.toList ++ [data.toList.foldl (· ^^^ ·) 0xFF])
    Nat.one_pos (by decide)).respuesta (List.cons_ne_nil _ _)
  rw [respuestaEscritura, order, load, flashPage_datos]
  dsimp only
  rw [← sendData_append, ← sendData_append, List.singleton_append]
  exact ⟨_, sent, rfl⟩

/-- The read-back of a page is acknowledged. -/
theorem sorda_respuestaLectura (address : Direccion) (direct : address.ms ≠ 0xFF)
    : (respuestaLectura sorda atenta address).1.head? = some ack := by
  have order : cmdRead sorda atenta = (false, atenta) :=
    sorda_sendBytes 0x11 [0xEE] (by decide) (by decide) (by decide)
  have load : loadAddress sorda atenta address = (false, atenta) :=
    sorda_sendBytes address.ms _ (by decide) (by decide) direct
  have sent := (sorda_contesta 0xFF [0x00] (by decide) (Nat.le_refl 257)).respuesta
    (List.cons_ne_nil _ _)
  rw [respuestaLectura, order, load]
  exact congrArg (fun read => read.1.head?) sent

/-- The sync byte, the erase commands, the write command and the address are all refused, and the
flashing of a file of one byte reports success.
-/
theorem flashSTM_sin_acuses
    : (flashSTM sorda atenta (some [0x12])).err = .espOk
      ∧ ¬ExitoAcusado sorda atenta [0x12] := by
  have start : initGpio sorda atenta = atenta := rfl
  have confirma : Confirma sorda atenta [0x12] := by
    obtain ⟨answer, answered, acked⟩ := sorda_respuestaEscritura inicio
      (overlay (Vector.replicate 256 0) [0x12]) (by decide)
    have readBack := sorda_respuestaLectura inicio (by decide)
    rw [Confirma, start, escrituras, sorda_setupSTM,
      respuestas_pagina (List.cons_ne_nil _ _) (by decide), answered, lecturas,
      respuestas_pagina (List.cons_ne_nil _ _) (by decide)]
    constructor
    · exact fun answer member => List.mem_singleton.mp member ▸ acked
    · exact fun answer member => List.mem_singleton.mp member ▸ readBack
  refine ⟨(flashSTM_ok_iff sorda atenta [0x12]).1.mpr confirma, fun exito => ?_⟩
  have sync : cmdSync sorda atenta = (false, atenta) :=
    sorda_sendBytes 0x7F [] (by decide) (by decide) (by decide)
  have reset : resetSTM sorda atenta = atenta := rfl
  have prepared := exito.preparacion
  rw [PreparacionAcusada, start, reset, sync] at prepared
  exact Bool.false_ne_true prepared.1

end EspHttpControl.Flash
