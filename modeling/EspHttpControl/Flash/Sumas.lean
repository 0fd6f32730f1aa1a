import EspHttpControl.Codes.Xor
import EspHttpControl.Flash.Bootloader
import EspHttpControl.Flash.StmFlash

/-! The checksums of the messages that carry an address and a page, on the bytes that the line
carries to the device.
-/

namespace EspHttpControl.Flash

open Codes

variable {σ : Type*} (d : Dispositivo σ)

/-- The message of `loadAddress`. -/
def mensajeDireccion (a : Direccion) : List Byte :=
  [a.ms, a.mi, a.li, a.ls, a.ms ^^^ a.mi ^^^ a.li ^^^ a.ls]

/-- The message of `flashPage` with the count, the page and their XOR. -/
def mensajeDatos (data : Vector Byte 256) : List Byte :=
  0xFF :: data.toList ++ [data.toList.foldl (· ^^^ ·) 0xFF]

/-- The receiver's XOR is zero over a message, and not if one byte from a place on is changed. -/
def Detecta (message : List Byte) (from' : Nat) : Prop :=
  xorDe message = 0
  ∧ ∀ (i : Nat) (inside : i < message.length), from' ≤ i
    → ∀ byte, byte ≠ message[i] → xorDe (message.set i byte) ≠ 0

/-- A device together with the bytes that it was sent. -/
def espia : Dispositivo (σ × List Byte) where
  pin s pin level := (d.pin s.1 pin level, s.2)
  recibe s byte :=
    let sent := d.recibe s.1 byte
    ((sent.1, s.2 ++ [byte]), sent.2)
  pausa s ms :=
    let sent := d.pausa s.1 ms
    ((sent.1, s.2), sent.2)

/-- A line on which some bytes were sent. -/
def anota (l : Linea σ) (sent : List Byte) : Linea (σ × List Byte) := ⟨(l.estado, sent), l.rx⟩

-----------------------------------------------------------------------------------------
-- What the line carries
-----------------------------------------------------------------------------------------

section Linea

variable (l : Linea σ) (sent : List Byte)

/-- The bytes of a message are carried in order, and the device behaves as ever. -/
theorem sendData_espia (bytes : List Byte)
    : sendData (espia d) (anota l sent) bytes = anota (sendData d l bytes) (sent ++ bytes) := by
  induction bytes generalizing l sent with
  | nil => rw [List.append_nil]; rfl
  | cons byte rest ih =>
      have first : sendData (espia d) (anota l sent) (byte :: rest)
          = sendData (espia d) (anota (uartWriteByte d l byte) (sent ++ [byte])) rest :=
        rfl
      rw [first, ih, List.append_assoc]
      rfl

/-- Nothing is carried to the device while the card waits, by induction on the time left. -/
theorem waitForSerialData_espia (dataCount timeout : Nat)
    : waitForSerialData (espia d) (anota l sent) dataCount timeout
      = ((waitForSerialData d l dataCount timeout).1,
          anota (waitForSerialData d l dataCount timeout).2 sent) := by
  induction timeout generalizing l with
  | zero => rfl
  | succ timeout ih =>
      have delayed : vTaskDelay (espia d) (anota l sent) 1 = anota (vTaskDelay d l 1) sent := rfl
      rw [waitForSerialData, waitForSerialData, delayed, ih]
      change (if dataCount ≤ l.rx.length then _ else _) = _
      split
      · rfl
      · rfl

theorem respuesta_espia (dataCount : Nat)
    : respuesta (espia d) (anota l sent) dataCount
      = ((respuesta d l dataCount).1, anota (respuesta d l dataCount).2 sent) := by
  rw [respuesta, waitForSerialData_espia, respuesta]
  dsimp only
  split
  · rfl
  · rfl

theorem sendBytes_espia (bytes : List Byte) (resp : Nat)
    : sendBytes (espia d) (anota l sent) bytes resp
      = ((sendBytes d l bytes resp).1, anota (sendBytes d l bytes resp).2 (sent ++ bytes)) := by
  rw [sendBytes, sendData_espia, respuesta_espia, sendBytes]

/-- `loadAddress` sends its message and nothing else. -/
theorem loadAddress_espia (address : Direccion)
    : loadAddress (espia d) (anota l sent) address
      = ((loadAddress d l address).1,
          anota (loadAddress d l address).2 (sent ++ mensajeDireccion address)) :=
  sendBytes_espia d l sent _ 1

/-- `flashPage` sends the write command, the address and the data message. -/
theorem flashPage_espia (address : Direccion) (data : Vector Byte 256)
    : flashPage (espia d) (anota l sent) address data
      = ((flashPage d l address data).1,
          anota (flashPage d l address data).2
            (sent ++ ([0x31, 0xCE] ++ mensajeDireccion address ++ mensajeDatos data))) := by
  have command : cmdWrite (espia d) (anota l sent)
      = ((cmdWrite d l).1, anota (cmdWrite d l).2 (sent ++ [0x31, 0xCE])) :=
    sendBytes_espia d l sent _ 1
  have answer : respuestaEscritura (espia d) (anota l sent) address data
      = ((respuestaEscritura d l address data).1,
          anota (respuestaEscritura d l address data).2
            (sent ++ ([0x31, 0xCE] ++ mensajeDireccion address ++ mensajeDatos data))) := by
    rw [respuestaEscritura, command]
    dsimp only
    rw [loadAddress_espia]
    dsimp only
    rw [flashPage_datos, sendData_espia, sendData_espia, sendData_espia, respuesta_espia,
      respuestaEscritura, flashPage_datos]
    simp only [mensajeDatos, List.append_assoc, List.cons_append, List.nil_append]
  rw [flashPage, answer, flashPage]

end Linea

-----------------------------------------------------------------------------------------
-- The checksums
-----------------------------------------------------------------------------------------

theorem xorDe_eq (bytes : List Byte) : xorDe bytes = xorAll bytes := by
  rw [xorDe, foldl_xor]
  exact BitVec.zero_xor

/-- A message that ends in its own XOR shows every change of one byte. -/
theorem detecta_append (bytes : List Byte) (from' : Nat)
    : Detecta (bytes ++ [xorAll bytes]) from' := by
  have closed := xorAll_append_xorAll bytes
  refine ⟨by rw [xorDe_eq, closed]; rfl, fun i inside _ byte other => ?_⟩
  rw [xorDe_eq]
  exact xorAll_set_ne_zero closed inside other

/-- The bytes that `loadAddress` and `flashPage` send to any device carry checksums that show
every change of one byte: of any byte of the address message, and of any byte of the data message
behind its count.
-/
theorem mensajes_detectan (l : Linea σ) (address : Direccion) (data : Vector Byte 256)
    : (loadAddress (espia d) (anota l []) address).2.estado.2 = mensajeDireccion address
      ∧ (flashPage (espia d) (anota l []) address data).2.estado.2
        = [0x31, 0xCE] ++ mensajeDireccion address ++ mensajeDatos data
      ∧ (mensajeDireccion address).length = 5 ∧ Detecta (mensajeDireccion address) 0
      ∧ (mensajeDatos data).length = 258 ∧ Detecta (mensajeDatos data) 1 := by
  have addressSum : mensajeDireccion address
      = [address.ms, address.mi, address.li, address.ls]
        ++ [xorAll [address.ms, address.mi, address.li, address.ls]] := by
    rw [← xorDe_eq, xorDe_address]
    rfl
  have dataSum : mensajeDatos data
      = (0xFF :: data.toList) ++ [xorAll (0xFF :: data.toList)] := by
    rw [mensajeDatos, foldl_xor, xorAll_cons]
  refine ⟨?_, ?_, rfl, ?_, ?_, ?_⟩
  · rw [loadAddress_espia]
    rfl
  · rw [flashPage_espia]
    rfl
  · rw [addressSum]
    exact detecta_append _ 0
  · rw [dataSum]
    simp
  · rw [dataSum]
    exact detecta_append _ 1

end EspHttpControl.Flash
