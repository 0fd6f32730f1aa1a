import EspHttpControl.Flash.StmFlash

/-! What a flashing does to the pins of the STM32.
The bootloader is selected by `BOOT0` when the reset is released, so that the two pins decide
which program runs at the other end of the line, during the flashing and behind it.
-/

namespace EspHttpControl.Flash

open CText
open Serial (EspErr)

/-- What reaches a device. -/
inductive Senal
  | pin (pin : Pin) (level : Bool)
  | byte (byte : Byte)
  | pausa (ms : Nat)
deriving DecidableEq, Repr

variable {σ : Type*} (d : Dispositivo σ) {n : Nat}

/-- A device together with all that reached it. -/
def vigia : Dispositivo (σ × List Senal) where
  pin s pin level := (d.pin s.1 pin level, s.2 ++ [.pin pin level])
  recibe s byte :=
    let sent := d.recibe s.1 byte
    ((sent.1, s.2 ++ [.byte byte]), sent.2)
  pausa s ms :=
    let sent := d.pausa s.1 ms
    ((sent.1, s.2 ++ [.pausa ms]), sent.2)

/-- What reaches the device while messages are exchanged: bytes, and time in between. -/
def Senal.DeMensaje : Senal → Prop
  | .pin _ _ => False
  | .byte _ => True
  | .pausa ms => ms = 1

/-- Between two moments only messages are exchanged. -/
def Dialoga (l l' : Linea (σ × List Senal)) : Prop :=
  ∃ medio, l'.estado.2 = l.estado.2 ++ medio ∧ ∀ senal ∈ medio, senal.DeMensaje

/-- `resetSTM` on the pins. -/
def pulsoReset : List Senal :=
  [.pin .reset false, .pausa 100, .pin .reset true, .pausa 500]

/-- The pins before the first message: `initGPIO` and the reset of `setupSTM`. -/
def entrada : List Senal := [.pin .reset true, .pin .boot0 true] ++ pulsoReset

/-- The pins behind the last message: `endConn`. -/
def salida : List Senal := [.pin .reset false, .pin .boot0 false] ++ pulsoReset

-----------------------------------------------------------------------------------------
-- Messages leave the pins alone
-----------------------------------------------------------------------------------------

section Mensajes

variable {d} {l l' l'' : Linea (σ × List Senal)}

theorem Dialoga.refl (l : Linea (σ × List Senal)) : Dialoga l l :=
  ⟨[], (List.append_nil _).symm, by simp⟩

theorem Dialoga.trans (first : Dialoga l l') (second : Dialoga l' l'') : Dialoga l l'' := by
  obtain ⟨medio, grown, own⟩ := first
  obtain ⟨otro, grown', own'⟩ := second
  refine ⟨medio ++ otro, by rw [grown', grown, List.append_assoc], fun senal member => ?_⟩
  exact (List.mem_append.mp member).elim (own senal) (own' senal)

theorem dialoga_sendData (l : Linea (σ × List Senal)) (bytes : List Byte)
    : Dialoga l (sendData (vigia d) l bytes) := by
  induction bytes generalizing l with
  | nil => exact .refl l
  | cons byte rest ih =>
      have first : Dialoga l (uartWriteByte (vigia d) l byte) :=
        ⟨[.byte byte], rfl, by simp [Senal.DeMensaje]⟩
      exact first.trans (ih _)

/-- By induction on the time left. -/
theorem dialoga_waitForSerialData (l : Linea (σ × List Senal)) (dataCount timeout : Nat)
    : Dialoga l (waitForSerialData (vigia d) l dataCount timeout).2 := by
  induction timeout generalizing l with
  | zero => exact .refl l
  | succ timeout ih =>
      rw [waitForSerialData]
      split
      · exact .refl l
      · have first : Dialoga l (vTaskDelay (vigia d) l 1) :=
          ⟨[.pausa 1], rfl, by simp [Senal.DeMensaje]⟩
        exact first.trans (ih _)

theorem dialoga_respuesta (l : Linea (σ × List Senal)) (dataCount : Nat)
    : Dialoga l (respuesta (vigia d) l dataCount).2 := by
  have waited := dialoga_waitForSerialData (d := d) l dataCount serialTimeout
  rw [respuesta]
  generalize waitForSerialData (vigia d) l dataCount serialTimeout = read at waited ⊢
  split
  · exact waited
  · exact waited

theorem dialoga_sendBytes (l : Linea (σ × List Senal)) (bytes : List Byte) (resp : Nat)
    : Dialoga l (sendBytes (vigia d) l bytes resp).2 :=
  (dialoga_sendData l bytes).trans (dialoga_respuesta _ resp)

theorem dialoga_cmdErase (l : Linea (σ × List Senal)) : Dialoga l (cmdErase (vigia d) l).2 := by
  have first := dialoga_sendBytes (d := d) l [0x43, 0xBC] 1
  rw [cmdErase]
  split
  · exact first.trans (dialoga_sendBytes _ _ 1)
  · exact first

theorem dialoga_cmdExtErase (l : Linea (σ × List Senal))
    : Dialoga l (cmdExtErase (vigia d) l).2 := by
  have first := dialoga_sendBytes (d := d) l [0x44, 0xBB] 1
  rw [cmdExtErase]
  split
  · exact first.trans (dialoga_sendBytes _ _ 1)
  · exact first

theorem dialoga_respuestaEscritura (l : Linea (σ × List Senal)) (address : Direccion)
    (data : Vector Byte 256)
    : Dialoga l (respuestaEscritura (vigia d) l address data).2 := by
  rw [respuestaEscritura, flashPage_datos]
  have command : Dialoga l (cmdWrite (vigia d) l).2 := dialoga_sendBytes l _ 1
  have load : Dialoga (cmdWrite (vigia d) l).2
      (loadAddress (vigia d) (cmdWrite (vigia d) l).2 address).2 :=
    dialoga_sendBytes _ _ 1
  exact command.trans (load.trans ((dialoga_sendData _ _).trans ((dialoga_sendData _ _).trans
    ((dialoga_sendData _ _).trans (dialoga_respuesta _ 1)))))

theorem dialoga_escribePagina (l : Linea (σ × List Senal)) (address : Direccion)
    (block : Vector Byte 256)
    : Dialoga l (escribePagina (vigia d) l address block).2.1 :=
  dialoga_respuestaEscritura l address block

theorem dialoga_respuestaLectura (l : Linea (σ × List Senal)) (address : Direccion)
    : Dialoga l (respuestaLectura (vigia d) l address).2 := by
  rw [respuestaLectura]
  have command : Dialoga l (cmdRead (vigia d) l).2 := dialoga_sendBytes l _ 1
  have load : Dialoga (cmdRead (vigia d) l).2
      (loadAddress (vigia d) (cmdRead (vigia d) l).2 address).2 :=
    dialoga_sendBytes _ _ 1
  exact command.trans (load.trans ((dialoga_sendData _ _).trans (dialoga_respuesta _ 257)))

theorem dialoga_readPage (l : Linea (σ × List Senal)) (address : Direccion)
    (block : Vector Byte 257)
    : Dialoga l (readPage (vigia d) l address block).2.1 := by
  have read := dialoga_respuestaLectura (d := d) l address
  rw [readPage]
  generalize respuestaLectura (vigia d) l address = answer at read ⊢
  split
  · exact read
  · exact read

/-- A page loop whose page function only exchanges messages does so as a whole. By induction on
the pages.
-/
theorem dialoga_porPaginas {page : Linea (σ × List Senal) → Direccion → Vector Byte n
      → EspErr × Linea (σ × List Senal) × Vector Byte n}
    (each : ∀ l address block, Dialoga l (page l address block).2.1)
    (l : Linea (σ × List Senal)) (address : Direccion) (block : Vector Byte n)
    (file : List Byte)
    : Dialoga l (porPaginas page l address block file).linea := by
  induction size : file.length using Nat.strong_induction_on generalizing l address block file with
  | _ size ih =>
      by_cases empty : file = []
      · subst empty
        rw [porPaginas_nil]
        exact .refl l
      · have positive := List.length_pos_iff.mpr empty
        rw [porPaginas_cons empty]
        dsimp only
        split
        · exact each l address _
        · refine (each l address _).trans (ih (file.drop 256).length ?_ _ _ _ _ rfl)
          rw [List.length_drop]
          omega

/-- Behind the reset of `setupSTM`. -/
theorem dialoga_writeTask (l : Linea (σ × List Senal)) (file : List Byte)
    : Dialoga (resetSTM (vigia d) l) (writeTask (vigia d) l file).linea := by
  have setup : Dialoga (resetSTM (vigia d) l) (setupSTM (vigia d) l) := by
    rw [setupSTM]
    exact (dialoga_sendBytes _ _ 1).trans ((dialoga_sendBytes _ _ 15).trans
      ((dialoga_sendBytes _ _ 5).trans ((dialoga_sendBytes _ _ 5).trans
        ((dialoga_cmdErase _).trans (dialoga_cmdExtErase _)))))
  rw [writeTask]
  exact setup.trans (dialoga_porPaginas dialoga_escribePagina _ inicio _ file)

theorem dialoga_readTask (l : Linea (σ × List Senal)) (file : List Byte)
    : Dialoga l (readTask (vigia d) l file).linea := by
  rw [readTask]
  exact dialoga_porPaginas dialoga_readPage l inicio _ file

end Mensajes

-----------------------------------------------------------------------------------------
-- The flashing
-----------------------------------------------------------------------------------------

/-- Whatever the device answers, a flashing enters the bootloader, exchanges messages only, and
leaves it again: the last thing that reaches the device is a reset with `BOOT0` low. Without a
file only the pins are set before it.
-/
theorem flashSTM_pines (l : Linea (σ × List Senal))
    : (∀ file, ∃ medio,
        (flashSTM (vigia d) l (some file)).linea.estado.2
          = l.estado.2 ++ entrada ++ medio ++ salida
        ∧ ∀ senal ∈ medio, senal.DeMensaje)
      ∧ (flashSTM (vigia d) l none).linea.estado.2
        = l.estado.2 ++ [.pin .reset true, .pin .boot0 true] ++ salida := by
  have entered : (resetSTM (vigia d) (initGpio (vigia d) l)).estado.2 = l.estado.2 ++ entrada := by
    simp [resetSTM, initGpio, gpioSetLevel, vTaskDelay, vigia, entrada, pulsoReset]
  have left (l' : Linea (σ × List Senal))
      : (endConn (vigia d) l').estado.2 = l'.estado.2 ++ salida := by
    simp [endConn, resetSTM, gpioSetLevel, vTaskDelay, vigia, salida, pulsoReset]
  have whole {l' : Linea (σ × List Senal)}
      (dialoga : Dialoga (resetSTM (vigia d) (initGpio (vigia d) l)) l')
      : ∃ medio, (endConn (vigia d) l').estado.2 = l.estado.2 ++ entrada ++ medio ++ salida
          ∧ ∀ senal ∈ medio, senal.DeMensaje := by
    obtain ⟨medio, grown, own⟩ := dialoga
    exact ⟨medio, by rw [left, grown, entered], own⟩
  refine ⟨fun file => ?_, ?_⟩
  · have wrote := dialoga_writeTask (d := d) (initGpio (vigia d) l) file
    rw [flashSTM]
    dsimp only
    split
    · exact whole (wrote.trans (dialoga_readTask _ file))
    · exact whole wrote
  · rw [flashSTM]
    dsimp only
    rw [left]
    simp [initGpio, gpioSetLevel, vigia]

end EspHttpControl.Flash
