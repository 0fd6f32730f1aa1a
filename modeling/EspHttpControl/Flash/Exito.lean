import EspHttpControl.Flash.Escritura
import EspHttpControl.Flash.Verificacion

/-! A flashing from end to end, on a device whose bootloader also answers the read command.
-/

namespace EspHttpControl.Flash

open CText
open Serial (EspErr)

variable {σ : Type*}

/-- What the card relies on when it reads back. Ready for commands the bootloader answers one
`ACK` to the read command, one to an address and one to a count with its complement, with the
bytes of its memory behind it; each answer may come while the card waits for it. Reading, resets
and time leave the memory as it is.
-/
structure Lector (d : Dispositivo σ) extends Bootloader d where
  EsperaLectura : σ → Prop
  EsperaLongitud : σ → Nat → Prop
  lectura : ∀ l, Lista l →
    ∃ s, Contesta d l [0x11, ~~~0x11] 1 (l.rx ++ [ack]) s ∧ EsperaLectura s
      ∧ memoria s = memoria l.estado
  desde : ∀ s (a : Direccion), EsperaLectura s →
    ∃ s', Contesta d ⟨s, []⟩ [a.ms, a.mi, a.li, a.ls, xorDe [a.ms, a.mi, a.li, a.ls]] 1 [ack] s'
      ∧ EsperaLongitud s' a.valor ∧ memoria s' = memoria s
  longitud : ∀ s a (count : Byte), EsperaLongitud s a →
    ∃ s', Contesta d ⟨s, []⟩ [count, ~~~count] (count.toNat + 2)
        (ack :: (List.range' a (count.toNat + 1)).map (memoria s)) s'
      ∧ Lista ⟨s', []⟩ ∧ memoria s' = memoria s
  pines : ∀ s pin level, memoria (d.pin s pin level) = memoria s
  pausas : ∀ s ms, memoria (d.pausa s ms).1 = memoria s

variable {d : Dispositivo σ} (b : Lector d)

/-- The length message of a page is answered with the page. -/
theorem respuestaLectura_lector {l : Linea σ} (ready : b.Lista l) (address : Direccion)
    : ∃ s, respuestaLectura d l address
          = (ack :: (List.range' address.valor 256).map (b.memoria l.estado), ⟨s, []⟩)
        ∧ b.Lista ⟨s, []⟩ ∧ b.memoria s = b.memoria l.estado := by
  obtain ⟨s1, ordered, waits1, memory1⟩ := b.lectura l ready
  obtain ⟨s2, addressed, waits2, memory2⟩ := b.desde s1 address waits1
  obtain ⟨s3, read, ready3, memory3⟩ := b.longitud s2 address.valor 0xFF waits2
  have command : (cmdRead d l).2 = ⟨s1, []⟩ :=
    ordered.tras (by simp)
  have load : (loadAddress d ⟨s1, []⟩ address).2 = ⟨s2, []⟩ :=
    loadAddress_contesta (List.cons_ne_nil _ _) addressed
  refine ⟨s3, ?_, ready3, by rw [memory3, memory2, memory1]⟩
  rw [respuestaLectura, command, load, ← memory1, ← memory2]
  exact read.respuesta (List.cons_ne_nil _ _)

/-- The answers to the pages that are read back from an address on. -/
def lecturasDesde (d : Dispositivo σ) (l : Linea σ) (address : Direccion) (block : Vector Byte 257)
    (file : List Byte)
    : List (List Byte) × Linea σ :=
  respuestas (fun l address _ => respuestaLectura d l address)
    (fun answer page => overlay page (answer.take 257)) l address block file

/-- The pages of a file are answered with the bytes of the memory, page after page. By induction
on the pages.
-/
theorem lecturasDesde_lector {l : Linea σ} {address : Direccion} (block : Vector Byte 257)
    {file : List Byte} {a : Nat} (ready : b.Lista l)
    (from' : file ≠ [] → address.valor = a) (room : a + 256 * paginasDe file ≤ 4294967296)
    : Confirmadas (lecturasDesde d l address block file).1
      ∧ (lecturasDesde d l address block file).1.flatMap bytesDe
        = (List.range' a (256 * paginasDe file)).map (b.memoria l.estado)
      ∧ b.memoria (lecturasDesde d l address block file).2.estado = b.memoria l.estado := by
  induction pages : paginasDe file generalizing l address block file a with
  | zero =>
      have none' : file = [] := paginasDe_eq_zero pages
      rw [lecturasDesde, respuestas, if_pos none']
      exact ⟨by simp [Confirmadas], rfl, rfl⟩
  | succ more ih =>
      obtain ⟨some', behind⟩ := paginasDe_succ pages
      obtain rfl := from' some'
      obtain ⟨s, answered, ready', kept⟩ := respuestaLectura_lector b ready address
      have next : file.drop 256 ≠ [] → (incrementLoadAddress address).valor = address.valor + 256 :=
        valor_siguiente (by rw [behind, ← pages]; exact room)
      have page : (bytesDe (ack :: (List.range' address.valor 256).map (b.memoria l.estado)))
          = (List.range' address.valor 256).map (b.memoria l.estado) := by
        rw [bytesDe, List.take_of_length_le (by simp), List.drop_one, List.tail_cons]
      have split' : (List.range' address.valor (256 * (more + 1)))
          = List.range' address.valor 256 ++ List.range' (address.valor + 256) (256 * more) := by
        rw [Nat.mul_succ, Nat.add_comm (256 * more), List.range'_append_1]
      obtain ⟨confirmed, bytes, memory⟩ := @ih ⟨s, []⟩ (incrementLoadAddress address)
        (overlay (overlay (overlay block (file.take 256))
            ((ack :: (List.range' address.valor 256).map (b.memoria l.estado)).take 257))
          (List.replicate 256 0xff))
        (file.drop 256) (address.valor + 256) ready' next (by omega) behind
      dsimp only at bytes memory
      rw [kept] at bytes memory
      rw [lecturasDesde, respuestas, if_neg some']
      dsimp only
      rw [answered]
      refine ⟨?_, ?_, ?_⟩
      · intro answer member
        rcases List.mem_cons.mp member with rfl | later
        · rfl
        · exact confirmed answer later
      · rw [List.flatMap_cons, page, split', List.map_append]
        exact congrArg _ bytes
      · exact memory

/-- All data messages of a file are acknowledged, and the device is ready behind them. By
induction on the pages.
-/
theorem respuestas_bootloader {l : Linea σ} (ready : b.Lista l) (address : Direccion)
    (block : Vector Byte 256) (file : List Byte)
    : Confirmadas (respuestas (respuestaEscritura d) (fun _ page => page) l address block file).1
      ∧ b.Lista (respuestas (respuestaEscritura d) (fun _ page => page) l address block
          file).2 := by
  fun_induction respuestas (respuestaEscritura d) (fun _ page => page) l address block file with
  | case1 l address block => exact ⟨by simp [Confirmadas], ready⟩
  | case2 l address block file some' data read later ih =>
      obtain ⟨s, answered, ready', -, -⟩ :=
        respuestaEscritura_bootloader b.toBootloader ready address data
      have behind : read.2 = ⟨s, []⟩ := congrArg Prod.snd answered
      have first : read.1 = [ack] := congrArg Prod.fst answered
      obtain ⟨confirmed, listed⟩ := ih (by rw [behind]; exact ready')
      refine ⟨fun answer member => ?_, listed⟩
      rcases List.mem_cons.mp member with own | other
      · rw [own, first]
        rfl
      · exact confirmed answer other

/-- The end of a connection leaves the memory as it is. -/
theorem memoria_endConn (l : Linea σ) : b.memoria (endConn d l).estado = b.memoria l.estado := by
  simp only [endConn, resetSTM, gpioSetLevel, vTaskDelay, b.pines, b.pausas]

/-- On a device that is ready behind `setupSTM` a file that fits is flashed: `flashSTM` reports
success, what it read back begins with the file, and behind the reset the flash holds the file.
Witness: the pages that are written and the pages that are read back, each by induction on them.
-/
theorem flashSTM_exito (l : Linea σ) (file : List Byte)
    (ready : b.Lista (setupSTM d (initGpio d l)))
    (fits : file.length ≤ 256 * (2 ^ 24 - 0x080000))
    : (flashSTM d l (some file)).err = .espOk
      ∧ (flashSTM d l (some file)).devueltos.take file.length = file
      ∧ ∀ i (inside : i < file.length),
        b.memoria (flashSTM d l (some file)).linea.estado (0x08000000 + i) = file[i] := by
  have room : 0x08000000 + 256 * paginasDe file ≤ 4294967296 := by
    rw [paginasDe]
    omega
  have start (some' : file ≠ []) : inicio.valor = 0x08000000 := rfl
  obtain ⟨acked, listed⟩ := respuestas_bootloader b ready inicio (Vector.replicate 256 0) file
  obtain ⟨confirmed, bytes, kept⟩ := lecturasDesde_lector b (Vector.replicate 257 0) listed start
    room
  have confirma : Confirma d l file := ⟨acked, confirmed⟩
  have programmed :
      (porPaginas (escribePagina d) (setupSTM d (initGpio d l)) inicio (Vector.replicate 256 0)
          file).err = .espOk
        ∧ Escrito b.toBootloader (setupSTM d (initGpio d l)).estado _ _ file :=
    porPaginas_escrito b.toBootloader ready start room
  obtain ⟨wrote, escrito⟩ := programmed
  have line := ((porPaginas_respuestas (escribePagina_segun d) (fun _ => []) (fun _ => [])
    (fun _ _ _ _ => rfl) (setupSTM d (initGpio d l)) inicio (Vector.replicate 256 0)
    file).2 acked).1
  rw [line] at escrito
  have reading := ((porPaginas_respuestas (readPage_segun d) (fun _ => []) (fun _ => [])
    (fun _ _ _ _ => rfl) (respuestas (respuestaEscritura d) (fun _ page => page)
      (setupSTM d (initGpio d l)) inicio (Vector.replicate 256 0) file).2 inicio
    (Vector.replicate 257 0) file).2 confirmed).1
  obtain ⟨ok, returned⟩ := flashSTM_ok_iff d l file
  refine ⟨ok.mpr confirma, ?_, ?_⟩
  · rw [returned confirma]
    refine (congrArg (List.take file.length) bytes).trans ?_
    apply List.ext_getElem
    · rw [List.length_take, List.length_map, List.length_range', paginasDe]
      omega
    · intro i left right
      rw [List.getElem_take, List.getElem_map, List.getElem_range', Nat.one_mul]
      exact escrito.contenido i right
  · intro i inside
    have made : (flashSTM d l (some file)).linea
        = endConn d (lecturas d (escrituras d (initGpio d l) file).2 file).2 := by
      rw [flashSTM]
      dsimp only
      rw [writeTask, if_pos wrote, line, readTask]
      exact congrArg (endConn d) reading
    rw [made, memoria_endConn]
    exact (congrFun kept _).trans (escrito.contenido i inside)

/-- The device with a read command. -/
def stm32Lector : Lector (stm32 id) where
  toBootloader := stm32Bootloader id
  EsperaLectura s := s.fase = .direccion true []
  EsperaLongitud s a := s.fase = .longitud a []
  lectura l ready := by
    refine ⟨{ l.estado with fase := .direccion true [] },
      contesta_enseguida ?_ (Nat.le_refl [ack].length), rfl, rfl⟩
    have ready : l.estado.fase = .orden [] := ready
    simp only [Dispositivo.recibidos, List.foldl_cons, List.foldl_nil, stm32, Stm32.recibe, ready]
    rfl
  desde s a waits := by
    refine ⟨{ s with fase := .longitud a.valor [] },
      contesta_enseguida ?_ (Nat.le_refl [ack].length), rfl, rfl⟩
    simp [Dispositivo.recibidos, stm32, Stm32.recibe, waits]
  longitud s a count waits := by
    refine ⟨{ s with fase := .orden [] }, contesta_enseguida ?_ (by simp), rfl, rfl⟩
    simp [Dispositivo.recibidos, stm32, Stm32.recibe, waits, stm32Bootloader]
  pines s pin level := by
    simp only [stm32, stm32Bootloader]
    split <;> rfl
  pausas _ _ := rfl

-----------------------------------------------------------------------------------------
-- Late answers
-----------------------------------------------------------------------------------------

/-- A device whose answers arrive only while the line waits. -/
def retrasada (d : Dispositivo σ) : Dispositivo (σ × List Byte) where
  pin s pin level := (d.pin s.1 pin level, s.2)
  recibe s byte :=
    let sent := d.recibe s.1 byte
    ((sent.1, s.2 ++ sent.2), [])
  pausa s ms :=
    let sent := d.pausa s.1 ms
    ((sent.1, []), s.2 ++ sent.2)

/-- What the device answers to a message is held back, by induction on the message. -/
theorem retrasada_recibidos (s : σ) (bytes : List Byte)
    : (retrasada d).recibidos (s, []) bytes = (d.recibidos s bytes, []) := by
  induction bytes using List.reverseRecOn with
  | nil => rfl
  | append_singleton bytes byte ih =>
      rw [Dispositivo.recibidos_concat, Dispositivo.recibidos_concat, ih]
      rfl

section Late

variable (quieta : ∀ s, d.pausa s 1 = (s, []))

include quieta

/-- An answer of a device that sends nothing by itself comes a millisecond late. -/
theorem Contesta.retrasada {s s' : σ} {bytes leido : List Byte} {resp : Nat}
    (contesta : Contesta d ⟨s, []⟩ bytes resp leido s') (positive : 0 < resp)
    : Contesta (Flash.retrasada d) ⟨(s, []), []⟩ bytes resp leido (s', []) := by
  obtain ⟨ms, -, arrived, enough, -⟩ := contesta
  have still : vTaskDelay d (sendData d ⟨s, []⟩ bytes) 1 = sendData d ⟨s, []⟩ bytes := by
    rw [vTaskDelay, quieta]
    simp
  rw [esperado, Function.iterate_fixed still, sendData_eq, List.nil_append] at arrived
  have sent : sendData (Flash.retrasada d) ⟨(s, []), []⟩ bytes = ⟨(s', leido), []⟩ := by
    rw [sendData_eq, retrasada_recibidos]
    exact congrArg (fun l : Linea σ => (⟨(l.estado, l.rx), []⟩ : Linea (σ × List Byte))) arrived
  refine ⟨1, by decide, ?_, enough, fun k before => ?_⟩
  · rw [sent, esperado, Function.iterate_one, vTaskDelay]
    simp [Flash.retrasada, quieta]
  · obtain rfl : k = 0 := Nat.lt_one_iff.mp before
    rw [sent]
    exact positive

/-- A bootloader may answer late. -/
def Bootloader.retrasada (b : Bootloader d) : Bootloader (Flash.retrasada d) where
  memoria s := b.memoria s.1
  escritas s := b.escritas s.1
  Lista l := b.Lista ⟨l.estado.1, []⟩ ∧ l.estado.2 = [] ∧ l.rx = []
  EsperaDireccion s := b.EsperaDireccion s.1 ∧ s.2 = []
  EsperaDatos s a := b.EsperaDatos s.1 a ∧ s.2 = []
  orden := by
    rintro ⟨⟨s, held⟩, rx⟩ ⟨ready, rfl, rfl⟩
    obtain ⟨s', answered, waits, kept⟩ := b.orden ⟨s, []⟩ ready
    exact ⟨(s', []), answered.retrasada quieta Nat.one_pos, ⟨waits, rfl⟩, kept⟩
  direccion := by
    rintro ⟨s, held⟩ a ⟨waits, rfl⟩
    obtain ⟨s', answered, waits', kept⟩ := b.direccion s a waits
    exact ⟨(s', []), answered.retrasada quieta Nat.one_pos, ⟨waits', rfl⟩, kept⟩
  datos := by
    rintro ⟨s, held⟩ a count data ⟨waits, rfl⟩ whole
    obtain ⟨s', answered, ready, kept⟩ := b.datos s a count data waits whole
    exact ⟨(s', []), answered.retrasada quieta Nat.one_pos, ⟨ready, rfl, rfl⟩, kept⟩

def Lector.retrasada (b : Lector d) : Lector (Flash.retrasada d) where
  toBootloader := b.toBootloader.retrasada quieta
  EsperaLectura s := b.EsperaLectura s.1 ∧ s.2 = []
  EsperaLongitud s a := b.EsperaLongitud s.1 a ∧ s.2 = []
  lectura := by
    rintro ⟨⟨s, held⟩, rx⟩ ⟨ready, rfl, rfl⟩
    obtain ⟨s', answered, waits, kept⟩ := b.lectura ⟨s, []⟩ ready
    exact ⟨(s', []), answered.retrasada quieta Nat.one_pos, ⟨waits, rfl⟩, kept⟩
  desde := by
    rintro ⟨s, held⟩ a ⟨waits, rfl⟩
    obtain ⟨s', answered, waits', kept⟩ := b.desde s a waits
    exact ⟨(s', []), answered.retrasada quieta Nat.one_pos, ⟨waits', rfl⟩, kept⟩
  longitud := by
    rintro ⟨s, held⟩ a count ⟨waits, rfl⟩
    obtain ⟨s', answered, ready, kept⟩ := b.longitud s a count waits
    exact ⟨(s', []), answered.retrasada quieta (Nat.succ_pos _), ⟨ready, rfl, rfl⟩, kept⟩
  pines s := b.pines s.1
  pausas s := b.pausas s.1

end Late

/-- The device that answers late, when it is switched on. -/
def tardia : Linea (Stm32 × List Byte) := ⟨(encendida.estado, []), []⟩

/-- The late device, ready for commands. -/
def listo (memoria : Nat → Byte) : Linea (Stm32 × List Byte) :=
  ⟨(⟨.orden [], memoria, []⟩, []), []⟩

theorem tardia_sendBytes {s s' : Stm32} {bytes answer : List Byte} {resp : Nat}
    (answered : (stm32 id).recibidos s bytes = (s', answer)) (enough : resp ≤ answer.length)
    (positive : 0 < resp)
    : sendBytes (retrasada (stm32 id)) ⟨(s, []), []⟩ bytes resp
      = (decide (answer.head? = some ack), ⟨(s', []), []⟩) := by
  have contesta : Contesta (stm32 id) ⟨s, []⟩ bytes resp answer s' :=
    contesta_enseguida answered enough
  exact (contesta.retrasada (fun _ => rfl) positive).sendBytes
    (List.length_pos_iff.mp (Nat.lt_of_lt_of_le positive enough))

/-- The preparation erases the device. -/
theorem tardia_setupSTM
    : setupSTM (retrasada (stm32 id)) (initGpio (retrasada (stm32 id)) tardia)
      = listo fun _ => 0xff := by
  have sync : cmdSync (retrasada (stm32 id))
      (resetSTM (retrasada (stm32 id)) (initGpio (retrasada (stm32 id)) tardia))
      = (true, listo fun _ => 0) :=
    tardia_sendBytes rfl (by decide) Nat.one_pos
  have get : cmdGet (retrasada (stm32 id)) (listo fun _ => 0) = (true, listo fun _ => 0) :=
    tardia_sendBytes rfl (by decide) (by decide)
  have version : cmdVersion (retrasada (stm32 id)) (listo fun _ => 0)
      = (true, listo fun _ => 0) :=
    tardia_sendBytes rfl (by decide) (by decide)
  have id' : cmdId (retrasada (stm32 id)) (listo fun _ => 0) = (true, listo fun _ => 0) :=
    tardia_sendBytes rfl (by decide) (by decide)
  have erase : cmdErase (retrasada (stm32 id)) (listo fun _ => 0)
      = (false, listo fun _ => 0) := by
    have refused : sendBytes (retrasada (stm32 id)) (listo fun _ => 0) [0x43, 0xBC] 1
        = (false, listo fun _ => 0) :=
      tardia_sendBytes rfl (by decide) Nat.one_pos
    rw [cmdErase, refused]
    rfl
  have extErase : cmdExtErase (retrasada (stm32 id)) (listo fun _ => 0)
      = (true, listo fun _ => 0xff) := by
    have command : sendBytes (retrasada (stm32 id)) (listo fun _ => 0) [0x44, 0xBB] 1
        = (true, ⟨(⟨.borrado [], fun _ => 0, []⟩, []), []⟩) :=
      tardia_sendBytes rfl (by decide) Nat.one_pos
    rw [cmdExtErase, command]
    exact tardia_sendBytes rfl (by decide) Nat.one_pos
  simp only [setupSTM, sync, get, version, id', erase, extErase]

theorem tardia_lista
    : (stm32Lector.retrasada fun _ => rfl).Lista
        (setupSTM (retrasada (stm32 id)) (initGpio (retrasada (stm32 id)) tardia)) := by
  rw [tardia_setupSTM]
  exact ⟨rfl, rfl, rfl⟩

/-- Witness: a device that answers at once, and one that answers late. -/
theorem flashSTM_exito_stm32
    : ((flashSTM (stm32 id) encendida (some [0x12, 0x34, 0x56])).err = .espOk
        ∧ (flashSTM (stm32 id) encendida (some [0x12, 0x34, 0x56])).devueltos.take 3
          = [0x12, 0x34, 0x56]
        ∧ ∀ i (inside : i < [(0x12 : Byte), 0x34, 0x56].length),
          stm32Lector.memoria
              (flashSTM (stm32 id) encendida (some [0x12, 0x34, 0x56])).linea.estado (0x08000000 + i)
            = [(0x12 : Byte), 0x34, 0x56][i])
      ∧ (flashSTM (retrasada (stm32 id)) tardia (some [0x12, 0x34, 0x56])).err = .espOk :=
  ⟨flashSTM_exito stm32Lector encendida [0x12, 0x34, 0x56] rfl (by decide),
    (flashSTM_exito (stm32Lector.retrasada fun _ => rfl) tardia [0x12, 0x34, 0x56] tardia_lista
      (by decide)).1⟩

end EspHttpControl.Flash
