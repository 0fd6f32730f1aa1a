import Mathlib.Algebra.Group.Nat.Defs
import EspHttpControl.Flash.Bootloader
import EspHttpControl.Flash.StmFlash

/-! What `writeTask` does to the flash of a device whose bootloader checks and answers each
message.
-/

namespace EspHttpControl.Flash

open CText
open Serial (EspErr)

variable {σ : Type*} {d : Dispositivo σ} (b : Bootloader d)

/-- The data message of a page is answered, and the page is stored at its address. -/
theorem respuestaEscritura_bootloader {l : Linea σ} (ready : b.Lista l)
    (address : Direccion) (data : Vector Byte 256)
    : ∃ s, respuestaEscritura d l address data = ([ack], ⟨s, []⟩) ∧ b.Lista ⟨s, []⟩
        ∧ b.memoria s = guardados (b.memoria l.estado) address.valor data.toList
        ∧ b.escritas s = b.escritas l.estado ++ List.range' address.valor 256 := by
  obtain ⟨s1, ordered, waits1, memory1, stored1⟩ := b.orden l ready
  obtain ⟨s2, addressed, waits2, memory2, stored2⟩ := b.direccion s1 address waits1
  have whole : data.toList.length = (0xFF : Byte).toNat + 1 := by
    rw [Vector.length_toList]
    rfl
  obtain ⟨s3, written, ready3, memory3, stored3⟩ :=
    b.datos s2 address.valor 0xFF data.toList waits2 whole
  have command : (cmdWrite d l).2 = ⟨s1, []⟩ :=
    ordered.tras (by simp)
  have load : (loadAddress d ⟨s1, []⟩ address).2 = ⟨s2, []⟩ :=
    loadAddress_contesta (List.cons_ne_nil _ _) addressed
  have xorData : data.toList.foldl (· ^^^ ·) 0xFF = xorDe (0xFF :: data.toList) := by
    simp [xorDe]
  refine ⟨s3, ?_, ready3, ?_, ?_⟩
  · rw [respuestaEscritura, command, load, flashPage_datos]
    dsimp only
    rw [← sendData_append, ← sendData_append, xorData, List.singleton_append, ← List.cons_append]
    exact written.respuesta (List.cons_ne_nil _ _)
  · rw [memory3, memory2, memory1]
  · rw [stored3, stored2, stored1, Vector.length_toList]

/-- The file is stored from an address on, in whole pages and nowhere else. -/
structure Escrito (s s' : σ) (a : Nat) (file : List Byte) : Prop where
  contenido : ∀ i (inside : i < file.length), b.memoria s' (a + i) = file[i]
  resto : ∀ x, x < a ∨ a + 256 * paginasDe file ≤ x → b.memoria s' x = b.memoria s x
  escritas : ∃ nuevas, b.escritas s' = b.escritas s ++ nuevas
    ∧ ∀ x ∈ nuevas, a ≤ x ∧ x < a + 256 * paginasDe file

/-- A page and the rest of the file behind it make the whole file. -/
theorem Escrito.cons {s s1 s' : σ} {a : Nat} {file : List Byte} {block : Vector Byte 256}
    (some' : file ≠ [])
    (memory : b.memoria s1
      = guardados (b.memoria s) a (overlay block (file.take 256)).toList)
    (stored : b.escritas s1 = b.escritas s ++ List.range' a 256)
    (later : Escrito b s1 s' (a + 256) (file.drop 256))
    : Escrito b s s' a file := by
  have pages : paginasDe file = paginasDe (file.drop 256) + 1 := paginasDe_cons some'
  have front : (file.take 256).length ≤ 256 := List.length_take_le 256 file
  refine ⟨fun i inside => ?_, fun x outside => ?_, ?_⟩
  · by_cases here : i < 256
    · -- the passes behind this one leave the page alone
      have kept := later.resto (a + i) (Or.inl (by omega))
      have within : i < (file.take 256).length := by
        rw [List.length_take]
        omega
      rw [kept, memory, guardados, if_pos (Nat.le_add_right a i), Nat.add_sub_cancel_left,
        toList_overlay_append front, List.getElem?_append_left within,
        List.getElem?_eq_getElem within, Option.getD_some, List.getElem_take]
    · have behind : i - 256 < (file.drop 256).length := by
        rw [List.length_drop]
        omega
      have read := later.contenido (i - 256) behind
      have place : a + 256 + (i - 256) = a + i := by omega
      have same : 256 + (i - 256) = i := by omega
      rw [place] at read
      simpa only [List.getElem_drop, same] using read
  · rw [later.resto x (by omega), memory, guardados]
    split
    · next from' =>
      have far : (overlay block (file.take 256)).toList[x - a]? = none := by
        apply List.getElem?_eq_none
        rw [Vector.length_toList]
        omega
      rw [far, Option.getD_none]
    · rfl
  · obtain ⟨nuevas, grown, within⟩ := later.escritas
    refine ⟨List.range' a 256 ++ nuevas, ?_, fun x member => ?_⟩
    · rw [grown, stored, List.append_assoc]
    · rcases List.mem_append.mp member with this' | other
      · have bounds := List.mem_range'_1.mp this'
        omega
      · have bounds := within x other
        omega

/-- The loop of `writeTask` stores what is left of the file, by induction on the pages. -/
theorem porPaginas_escrito {l : Linea σ} {address : Direccion} {block : Vector Byte 256}
    {file : List Byte} {a : Nat} (ready : b.Lista l)
    (from' : file ≠ [] → address.valor = a) (room : a + 256 * paginasDe file ≤ 4294967296)
    : (porPaginas (escribePagina d) l address block file).err = .espOk
      ∧ Escrito b l.estado (porPaginas (escribePagina d) l address block file).linea.estado
          a file := by
  induction pages : paginasDe file generalizing l address block file a with
  | zero =>
      have none' : file = [] := paginasDe_eq_zero pages
      subst none'
      rw [porPaginas_nil]
      exact ⟨rfl, by simp, fun _ _ => rfl, [], by simp⟩
  | succ more ih =>
      obtain ⟨some', behind⟩ := paginasDe_succ pages
      obtain rfl := from' some'
      obtain ⟨s, answered, ready', memory, stored⟩ :=
        respuestaEscritura_bootloader b ready address (overlay block (file.take 256))
      have went : escribePagina d l address (overlay block (file.take 256))
          = (.espOk, ⟨s, []⟩, overlay block (file.take 256)) := by
        rw [escribePagina, flashPage, answered]
        rfl
      have next : file.drop 256 ≠ [] → (incrementLoadAddress address).valor = address.valor + 256 :=
        valor_siguiente (by rw [behind, ← pages]; exact room)
      obtain ⟨finished, later⟩ := @ih ⟨s, []⟩ _
        (overlay (overlay block (file.take 256)) (List.replicate 256 0xff)) _ _ ready' next
        (by omega) behind
      rw [porPaginas_sigue some' went]
      exact ⟨finished, later.cons b some' memory stored⟩

/-- A file that fits behind 0x08000000 is written as it is: `writeTask` succeeds, the flash holds
the file from there on, and no byte outside its pages is written. Witness: the induction on the
pages, where the carries of the address counter never leave its highest byte.
-/
theorem writeTask_escribe (l : Linea σ) (file : List Byte)
    (ready : b.Lista (setupSTM d l))
    (fits : file.length ≤ 256 * (2 ^ 24 - 0x080000))
    : (writeTask d l file).err = .espOk
      ∧ Escrito b (setupSTM d l).estado (writeTask d l file).linea.estado 0x08000000 file := by
  refine porPaginas_escrito b ready (fun _ => rfl) ?_
  rw [paginasDe]
  omega

theorem writeTask_escribe_stm32
    : (writeTask (stm32 id) encendida [0x12, 0x34, 0x56]).err = .espOk
      ∧ Escrito (stm32Bootloader id) (setupSTM (stm32 id) encendida).estado
          (writeTask (stm32 id) encendida [0x12, 0x34, 0x56]).linea.estado
          0x08000000 [0x12, 0x34, 0x56] :=
  writeTask_escribe (stm32Bootloader id) _ _ rfl (by decide)

end EspHttpControl.Flash
