import EspHttpControl.CText.Strtok
import EspHttpControl.Machines.Runs

/-! The queue between `UART_rx_task` and `UART_tx_task`.
The receiver refills one buffer and queues the pointer to it, so an item of the queue is the
buffer of the moment at which it is parsed. The read that an item stands for is kept beside
the item only to be compared with.
-/

namespace EspHttpControl.Serial

open CText Machines

/-- `RX_BUF_SIZE` -/
def rxBufSize : Nat := 1024

/-- The two tasks: the receiver's buffer, its last read while that is still to be sent, and
the item of the queue of capacity 1, each of the latter two as the bytes of its read.
-/
structure RxTx where
  data : List Char
  leido : Option (List Char)
  cola : Option (List Char)
deriving DecidableEq, Repr

/-- The atomic steps: a read completes, the pointer is sent, the pointer is dropped because
the queue stays full, and the other task receives and parses an item.
-/
inductive Paso
  | rxRead (bytes : List Char)
  | rxSend
  | rxDrop
  | txReceive
deriving DecidableEq, Repr

/-- Both tasks from boot, whatever the buffer holds. -/
def RxTx.inicial (data : List Char) : RxTx := ⟨data, none, none⟩

/-- One step of either task; `none` where the step is not possible. -/
def RxTx.paso (s : RxTx) : Paso → Option RxTx
  | .rxRead bytes =>
    if s.leido = none ∧ 0 < bytes.length ∧ bytes.length ≤ rxBufSize then
      some { s with
        data := bytes ++ nul :: s.data.drop (bytes.length + 1)
        leido := some bytes }
    else none
  | .rxSend =>
    match s.leido, s.cola with
    | some bytes, none => some { s with leido := none, cola := some bytes }
    | _, _ => none
  | .rxDrop =>
    match s.leido, s.cola with
    | some _, some _ => some { s with leido := none }
    | _, _ => none
  | .txReceive =>
    match s.cola with
    | some _ => some { s with cola := none }
    | none => none

/-- The two tasks as one machine over their steps in any order. -/
def rxTx : Machine RxTx Paso where
  step := RxTx.paso

/-- What `parse_data` reads through the pointer of the queued item. -/
def RxTx.analizado (s : RxTx) : Str := cstr s.data

/-- A received item is parsed as the bytes of the read whose send put it in the queue, up to
their first terminator.
-/
def EntregaIntacta (s : RxTx) (p : Paso) : Prop :=
  p = .txReceive → ∀ bytes, s.cola = some bytes → s.analizado = cstr bytes

/-- A read that completes while an item waits in the queue brings the text of that item. -/
def LecturaInocua (s : RxTx) (p : Paso) : Prop :=
  ∀ bytes esperando, p = .rxRead bytes → s.cola = some esperando → cstr bytes = cstr esperando

/-- The buffer shows the read that is to be sent and the read that is queued. -/
structure RxTx.Fiel (s : RxTx) : Prop where
  leido : ∀ bytes, s.leido = some bytes → s.analizado = cstr bytes
  cola : ∀ bytes, s.cola = some bytes → s.analizado = cstr bytes

/-- After a read the buffer shows that read, whatever stale bytes follow its terminator. -/
theorem cstr_read (bytes stale : List Char) : cstr (bytes ++ nul :: stale) = cstr bytes := by
  induction bytes with
  | nil => rfl
  | cons c rest ih =>
      by_cases stop : c = nul
      · subst stop
        rfl
      · simpa [cstr, List.takeWhile_cons, stop] using ih

/-- A step with a harmless read keeps the buffer faithful, by the cases of the step. -/
theorem RxTx.Fiel.paso {s s' : RxTx} {p : Paso} (fiel : s.Fiel) (inocua : LecturaInocua s p)
    (h : s.paso p = some s')
    : s'.Fiel := by
  cases p with
  | rxRead bytes =>
      simp only [RxTx.paso] at h
      split at h
      · obtain rfl := Option.some.inj h
        have shown := cstr_read bytes (s.data.drop (bytes.length + 1))
        refine ⟨fun leido same => ?_, fun esperando queued => ?_⟩
        · obtain rfl := Option.some.inj same
          exact shown
        · exact shown.trans (inocua bytes esperando rfl queued)
      · cases h
  | rxSend =>
      simp only [RxTx.paso] at h
      split at h
      · rename_i bytes last empty
        obtain rfl := Option.some.inj h
        refine ⟨by simp, fun sent same => ?_⟩
        obtain rfl := Option.some.inj same
        exact fiel.leido bytes last
      · cases h
  | rxDrop =>
      simp only [RxTx.paso] at h
      split at h
      · obtain rfl := Option.some.inj h
        exact ⟨by simp, fiel.cola⟩
      · cases h
  | txReceive =>
      simp only [RxTx.paso] at h
      split at h
      · obtain rfl := Option.some.inj h
        exact ⟨fiel.leido, by simp⟩
      · cases h

/-- In every run whose reads are harmless each received item is parsed as it was read.
Witness: the run rule for guarded steps, with the faithful buffer as invariant.
-/
theorem rxTx_entregaIntacta (data : List Char) (pasos : List Paso)
    (inocuas : rxTx.Along LecturaInocua (RxTx.inicial data) pasos)
    : rxTx.Along EntregaIntacta (RxTx.inicial data) pasos := by
  have start : (RxTx.inicial data).Fiel :=
    ⟨by simp [RxTx.inicial], by simp [RxTx.inicial]⟩
  have holds : ∀ s p, s.Fiel → LecturaInocua s p → EntregaIntacta s p :=
    fun _ _ fiel _ _ bytes queued => fiel.cola bytes queued
  exact Machine.along_of_guard holds (fun _ _ _ fiel inocua h => fiel.paso inocua h) start
    inocuas

/-- Two reads, the second one after the first was parsed. -/
theorem rxTx_entregaIntacta_alternas
    : rxTx.Along EntregaIntacta (RxTx.inicial [])
        [.rxRead "p0-0d1m1".toList, .rxSend, .txReceive, .rxRead "p4-4d1m4".toList] := by
  refine rxTx_entregaIntacta [] _ ⟨fun _ _ _ queued => (by cases queued), fun _ taken => ?_⟩
  obtain rfl := Option.some.inj taken
  refine ⟨fun _ _ read => (by cases read), fun _ taken => ?_⟩
  obtain rfl := Option.some.inj taken
  refine ⟨fun _ _ read => (by cases read), fun _ taken => ?_⟩
  obtain rfl := Option.some.inj taken
  exact ⟨fun _ _ _ queued => (by cases queued), fun _ _ => trivial⟩

/-- A second read overwrites the first one while the pointer to it waits in the queue. -/
theorem rxTx_entregaReemplazada
    : ¬∀ (data : List Char) (pasos : List Paso),
        rxTx.Along EntregaIntacta (RxTx.inicial data) pasos := by
  intro all
  have run := all []
    [.rxRead "p0-0d1m1".toList, .rxSend, .rxRead "p4-4d1m4".toList, .rxDrop, .txReceive]
  have received := Machine.along_iff.mp run
    [.rxRead "p0-0d1m1".toList, .rxSend, .rxRead "p4-4d1m4".toList, .rxDrop] .txReceive [] rfl
    ⟨"p4-4d1m4".toList ++ [nul], none, some "p0-0d1m1".toList⟩ rfl rfl _ rfl
  exact absurd received (by decide)

end EspHttpControl.Serial
