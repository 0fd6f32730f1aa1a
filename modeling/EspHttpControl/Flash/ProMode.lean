import Mathlib.Data.List.Induction
import Mathlib.Logic.Function.Iterate
import EspHttpControl.CText.Cells
import EspHttpControl.Serial.Sensores

/-! The messages that the card exchanges with the bootloader of an STM32.
The device at the other end is a parameter: it may send bytes when it receives one and while
the card waits.
-/

namespace EspHttpControl.Flash

open CText
open Serial (EspErr)

/-- A `char` of the messages. -/
abbrev Byte := BitVec 8

/-- `ACK` -/
def ack : Byte := 0x79

/-- `SERIAL_TIMEOUT` -/
def serialTimeout : Nat := 150000000

inductive Pin
  | reset | boot0
deriving DecidableEq, Repr

/-- A device: what it makes of its pins, of a byte sent to it and of the time that passes. -/
structure Dispositivo (σ : Type*) where
  pin : σ → Pin → Bool → σ
  recibe : σ → Byte → σ × List Byte
  pausa : σ → Nat → σ × List Byte

/-- The device and the bytes from it that wait in the receive buffer of the UART. -/
structure Linea (σ : Type*) where
  estado : σ
  rx : List Byte

variable {σ : Type*} (d : Dispositivo σ)

def gpioSetLevel (l : Linea σ) (pin : Pin) (level : Bool) : Linea σ :=
  { l with estado := d.pin l.estado pin level }

/-- `vTaskDelay`, with the milliseconds that the source divides by `portTICK_PERIOD_MS`. -/
def vTaskDelay (l : Linea σ) (ms : Nat) : Linea σ :=
  let sent := d.pausa l.estado ms
  ⟨sent.1, l.rx ++ sent.2⟩

/-- `uart_write_bytes` of one byte. -/
def uartWriteByte (l : Linea σ) (byte : Byte) : Linea σ :=
  let sent := d.recibe l.estado byte
  ⟨sent.1, l.rx ++ sent.2⟩

/-- `uart_read_bytes` of bytes that are buffered. -/
def uartReadBytes (l : Linea σ) (length : Nat) : List Byte × Linea σ :=
  (l.rx.take length, { l with rx := l.rx.drop length })

/-- `sendData` -/
def sendData (l : Linea σ) (data : List Byte) : Linea σ :=
  data.foldl (uartWriteByte d) l

/-- `waitForSerialData`: the number of buffered bytes once there are enough, 0 on a timeout. -/
def waitForSerialData (l : Linea σ) (dataCount : Nat) : Nat → Nat × Linea σ
  | 0 => (0, l)
  | timeout + 1 =>
    if dataCount ≤ l.rx.length then (l.rx.length, l)
    else waitForSerialData (vTaskDelay d l 1) dataCount timeout

/-- The wait for an answer and the read behind it; no bytes are read on a timeout. -/
def respuesta (l : Linea σ) (dataCount : Nat) : List Byte × Linea σ :=
  let waited := waitForSerialData d l dataCount serialTimeout
  if 0 < waited.1 then uartReadBytes waited.2 waited.1 else ([], waited.2)

/-- `sendBytes`: whether the answer to the message starts with `ACK`. -/
def sendBytes (l : Linea σ) (bytes : List Byte) (resp : Nat) : Bool × Linea σ :=
  let read := respuesta d (sendData d l bytes) resp
  (read.1.head? = some ack, read.2)

def resetSTM (l : Linea σ) : Linea σ :=
  let l := gpioSetLevel d l .reset false
  let l := vTaskDelay d l 100
  let l := gpioSetLevel d l .reset true
  vTaskDelay d l 500

def initGpio (l : Linea σ) : Linea σ :=
  let l := gpioSetLevel d l .reset true
  gpioSetLevel d l .boot0 true

def endConn (l : Linea σ) : Linea σ :=
  let l := gpioSetLevel d l .reset false
  let l := gpioSetLevel d l .boot0 false
  resetSTM d l

def cmdSync (l : Linea σ) : Bool × Linea σ := sendBytes d l [0x7F] 1

def cmdGet (l : Linea σ) : Bool × Linea σ := sendBytes d l [0x00, 0xFF] 15

def cmdVersion (l : Linea σ) : Bool × Linea σ := sendBytes d l [0x01, 0xFE] 5

def cmdId (l : Linea σ) : Bool × Linea σ := sendBytes d l [0x02, 0xFD] 5

def cmdErase (l : Linea σ) : Bool × Linea σ :=
  let a := sendBytes d l [0x43, 0xBC] 1
  if a.1 then sendBytes d a.2 [0xFF, 0x00] 1 else (false, a.2)

def cmdExtErase (l : Linea σ) : Bool × Linea σ :=
  let a := sendBytes d l [0x44, 0xBB] 1
  if a.1 then sendBytes d a.2 [0xFF, 0xFF, 0x00] 1 else (false, a.2)

def cmdWrite (l : Linea σ) : Bool × Linea σ := sendBytes d l [0x31, 0xCE] 1

def cmdRead (l : Linea σ) : Bool × Linea σ := sendBytes d l [0x11, 0xEE] 1

/-- `setupSTM`, which looks at none of the answers. -/
def setupSTM (l : Linea σ) : Linea σ :=
  let l := resetSTM d l
  let l := (cmdSync d l).2
  let l := (cmdGet d l).2
  let l := (cmdVersion d l).2
  let l := (cmdId d l).2
  let l := (cmdErase d l).2
  (cmdExtErase d l).2

/-- The four bytes of `loadAddress`, the highest one first. -/
structure Direccion where
  ms : Byte
  mi : Byte
  li : Byte
  ls : Byte
deriving DecidableEq, Repr

def Direccion.valor (a : Direccion) : Nat :=
  a.ms.toNat * 16777216 + a.mi.toNat * 65536 + a.li.toNat * 256 + a.ls.toNat

/-- `incrementLoadAddress`: a page is 256 bytes, so the lowest byte stays. -/
def incrementLoadAddress (a : Direccion) : Direccion :=
  let a := { a with li := a.li + 1 }
  if a.li = 0 then
    let a := { a with mi := a.mi + 1 }
    if a.mi = 0 then { a with ms := a.ms + 1 } else a
  else a

/-- `loadAddress` -/
def loadAddress (l : Linea σ) (a : Direccion) : Bool × Linea σ :=
  sendBytes d l [a.ms, a.mi, a.li, a.ls, a.ms ^^^ a.mi ^^^ a.li ^^^ a.ls] 1

/-- The answer to the data message of a page, behind the write command and the address. -/
def respuestaEscritura (l : Linea σ) (address : Direccion) (data : Vector Byte 256)
    : List Byte × Linea σ :=
  let l := (cmdWrite d l).2
  let l := (loadAddress d l address).2
  let sent := data.toList.foldl (fun s byte => (sendData d s.1 [byte], s.2 ^^^ byte))
    (sendData d l [0xFF], (0xFF : Byte))
  respuesta d (sendData d sent.1 [sent.2]) 1

/-- `flashPage`, whose result is that of its last message. -/
def flashPage (l : Linea σ) (address : Direccion) (data : Vector Byte 256)
    : EspErr × Linea σ :=
  let read := respuestaEscritura d l address data
  (if read.1.head? = some ack then .espOk else .espFail, read.2)

/-- The answer to the length message of a page, behind the read command and the address. -/
def respuestaLectura (l : Linea σ) (address : Direccion) : List Byte × Linea σ :=
  let l := (cmdRead d l).2
  let l := (loadAddress d l address).2
  respuesta d (sendData d l [0xFF, 0x00]) 257

/-- `readPage`, which copies the answer, its `ACK` included, over the block of the file. -/
def readPage (l : Linea σ) (address : Direccion) (data : Vector Byte 257)
    : EspErr × Linea σ × Vector Byte 257 :=
  let read := respuestaLectura d l address
  if read.1.head? = some ack then (.espOk, read.2, overlay data (read.1.take 257))
  else (.espFail, read.2, data)

-----------------------------------------------------------------------------------------
-- What a message does
-----------------------------------------------------------------------------------------

/-- The device and all that it sends while it receives some bytes. -/
def Dispositivo.recibidos (s : σ) (bytes : List Byte) : σ × List Byte :=
  bytes.foldl (fun sent byte =>
    let next := d.recibe sent.1 byte
    (next.1, sent.2 ++ next.2)) (s, [])

theorem sendData_append (l : Linea σ) (first second : List Byte)
    : sendData d l (first ++ second) = sendData d (sendData d l first) second :=
  List.foldl_append

/-- What is sent goes behind the buffered bytes, by induction on the message. -/
theorem sendData_eq (l : Linea σ) (bytes : List Byte)
    : sendData d l bytes
      = ⟨(d.recibidos l.estado bytes).1, l.rx ++ (d.recibidos l.estado bytes).2⟩ := by
  induction bytes using List.reverseRecOn with
  | nil => simp [sendData, Dispositivo.recibidos]
  | append_singleton bytes byte ih =>
      rw [sendData_append, ih]
      simp [sendData, uartWriteByte, Dispositivo.recibidos]

/-- The line behind some milliseconds of waiting. -/
def esperado (l : Linea σ) (ms : Nat) : Linea σ := (vTaskDelay d · 1)^[ms] l

/-- The wait ends as soon as enough bytes have arrived, if they come in time. By induction on the
milliseconds.
-/
theorem waitForSerialData_esperado {l : Linea σ} {dataCount ms timeout : Nat}
    (soon : ms < timeout) (few : ∀ k < ms, (esperado d l k).rx.length < dataCount)
    (enough : dataCount ≤ (esperado d l ms).rx.length)
    : waitForSerialData d l dataCount timeout
      = ((esperado d l ms).rx.length, esperado d l ms) := by
  induction ms generalizing l timeout with
  | zero =>
      cases timeout with
      | zero => exact absurd soon (Nat.lt_irrefl 0)
      | succ timeout =>
          rw [waitForSerialData]
          exact if_pos enough
  | succ ms ih =>
      cases timeout with
      | zero => exact absurd soon (Nat.not_lt_zero _)
      | succ timeout =>
          have waits : ¬dataCount ≤ l.rx.length := Nat.not_le.mpr (few 0 (Nat.succ_pos ms))
          rw [waitForSerialData, if_neg waits]
          exact ih (Nat.lt_of_succ_lt_succ soon)
            (fun k below => few (k + 1) (Nat.succ_lt_succ below)) enough

/-- The device answers a message in time: at once, or while the card waits for `resp` bytes. The
card then finds the bytes `leido`, and the device is left in `s`.
-/
def Contesta (l : Linea σ) (bytes : List Byte) (resp : Nat) (leido : List Byte) (s : σ) : Prop :=
  ∃ ms < serialTimeout, esperado d (sendData d l bytes) ms = ⟨s, leido⟩
    ∧ resp ≤ leido.length
    ∧ ∀ k < ms, (esperado d (sendData d l bytes) k).rx.length < resp

section Answers

variable {d} {l : Linea σ} {bytes leido answer : List Byte} {resp : Nat} {s : σ}

/-- All that has arrived is read. -/
theorem Contesta.respuesta (contesta : Contesta d l bytes resp leido s) (some' : leido ≠ [])
    : Flash.respuesta d (sendData d l bytes) resp = (leido, ⟨s, []⟩) := by
  obtain ⟨ms, soon, arrived, enough, few⟩ := contesta
  have waited : waitForSerialData d (sendData d l bytes) resp serialTimeout
      = (leido.length, ⟨s, leido⟩) := by
    rw [waitForSerialData_esperado d soon few (by rw [arrived]; exact enough), arrived]
  rw [Flash.respuesta, waited, if_pos (List.length_pos_iff.mpr some'), uartReadBytes,
    List.take_length, List.drop_length]

/-- The result of a message says whether its answer starts with `ACK`. -/
theorem Contesta.sendBytes (contesta : Contesta d l bytes resp leido s) (some' : leido ≠ [])
    : Flash.sendBytes d l bytes resp = (decide (leido.head? = some ack), ⟨s, []⟩) := by
  rw [Flash.sendBytes, contesta.respuesta some']

/-- Behind an answer the card has read all that arrived. -/
theorem Contesta.tras (contesta : Contesta d l bytes resp leido s) (some' : leido ≠ [])
    : (Flash.sendBytes d l bytes resp).2 = ⟨s, []⟩ := by
  rw [contesta.sendBytes some']

/-- An answer that the device gives while it receives the message stands behind the bytes that
were buffered.
-/
theorem contesta_enseguida (answered : d.recibidos l.estado bytes = (s, answer))
    (enough : resp ≤ answer.length)
    : Contesta d l bytes resp (l.rx ++ answer) s := by
  refine ⟨0, by decide, ?_, ?_, fun k before => absurd before (Nat.not_lt_zero k)⟩
  · rw [esperado, Function.iterate_zero, id, sendData_eq, answered]
  · rw [List.length_append]
    omega

end Answers

/-- The data loop of `flashPage` sends the page and computes the XOR of its bytes. -/
theorem flashPage_datos (l : Linea σ) (data : List Byte) (xor : Byte)
    : data.foldl (fun s byte => (sendData d s.1 [byte], s.2 ^^^ byte)) (l, xor)
      = (sendData d l data, data.foldl (· ^^^ ·) xor) := by
  induction data generalizing l xor with
  | nil => rfl
  | cons byte rest ih =>
      rw [List.foldl_cons, ih]
      rfl

theorem toNat_add_one (b : Byte) : (b + 1).toNat = (b.toNat + 1) % 256 := by
  rw [BitVec.toNat_add]
  rfl

theorem add_one_eq_zero (b : Byte) : b + 1 = 0 ↔ b.toNat = 255 := by
  have small : b.toNat < 256 := b.isLt
  have zero : (0 : Byte).toNat = 0 := rfl
  rw [← BitVec.toNat_inj, toNat_add_one, zero]
  omega

/-- Where no carry leaves the highest byte, an increment goes one page on. -/
theorem valor_incrementLoadAddress {a : Direccion} (room : a.valor + 256 < 4294967296)
    : (incrementLoadAddress a).valor = a.valor + 256 := by
  obtain ⟨ms, mi, li, ls⟩ := a
  have smallMi : mi.toNat < 256 := mi.isLt
  have smallLi : li.toNat < 256 := li.isLt
  simp only [Direccion.valor] at room
  simp only [incrementLoadAddress]
  by_cases carryLi : li + 1 = 0
  · have topLi := (add_one_eq_zero li).mp carryLi
    rw [if_pos carryLi]
    by_cases carryMi : mi + 1 = 0
    · have topMi := (add_one_eq_zero mi).mp carryMi
      rw [if_pos carryMi]
      simp only [Direccion.valor, toNat_add_one]
      omega
    · have below : mi.toNat ≠ 255 := fun top => carryMi ((add_one_eq_zero mi).mpr top)
      rw [if_neg carryMi]
      simp only [Direccion.valor, toNat_add_one]
      omega
  · have below : li.toNat ≠ 255 := fun top => carryLi ((add_one_eq_zero li).mpr top)
    rw [if_neg carryLi]
    simp only [Direccion.valor, toNat_add_one]
    omega

end EspHttpControl.Flash
