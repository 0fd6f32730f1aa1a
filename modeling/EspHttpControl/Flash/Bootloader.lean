import EspHttpControl.Flash.ProMode

/-! The bootloader at the other end of the line: what the card relies on when it writes, and a
device that behaves so.
-/

namespace EspHttpControl.Flash

open CText

/-- The XOR over a message. -/
def xorDe (bytes : List Byte) : Byte := bytes.foldl (· ^^^ ·) 0

theorem xorDe_address (a : Direccion)
    : xorDe [a.ms, a.mi, a.li, a.ls] = a.ms ^^^ a.mi ^^^ a.li ^^^ a.ls := by
  simp [xorDe]

/-- An address that is answered leaves the line empty. -/
theorem loadAddress_contesta {σ : Type*} {d : Dispositivo σ} {l : Linea σ} {a : Direccion}
    {leido : List Byte} {s : σ} (some' : leido ≠ [])
    (contesta : Contesta d l [a.ms, a.mi, a.li, a.ls, xorDe [a.ms, a.mi, a.li, a.ls]] 1 leido s)
    : (loadAddress d l a).2 = ⟨s, []⟩ := by
  rw [xorDe_address] at contesta
  exact contesta.tras some'

/-- A memory with some bytes stored from an address on. -/
def guardados (memoria : Nat → Byte) (a : Nat) (bytes : List Byte) : Nat → Byte :=
  fun x => if a ≤ x then bytes[x - a]?.getD (memoria x) else memoria x

variable {σ : Type*}

/-- What the card relies on in a bootloader. Ready for commands it answers one `ACK` to the
write command with its complement, then one to an address with its XOR and one to a count, the
data and the XOR of both; behind the last one the data are stored and it is ready again. Each
answer may come while the card waits for it.
-/
structure Bootloader (d : Dispositivo σ) where
  memoria : σ → Nat → Byte
  escritas : σ → List Nat
  Lista : Linea σ → Prop
  EsperaDireccion : σ → Prop
  EsperaDatos : σ → Nat → Prop
  orden : ∀ l, Lista l →
    ∃ s, Contesta d l [0x31, ~~~0x31] 1 (l.rx ++ [ack]) s ∧ EsperaDireccion s
      ∧ memoria s = memoria l.estado ∧ escritas s = escritas l.estado
  direccion : ∀ s (a : Direccion), EsperaDireccion s →
    ∃ s', Contesta d ⟨s, []⟩ [a.ms, a.mi, a.li, a.ls, xorDe [a.ms, a.mi, a.li, a.ls]] 1 [ack] s'
      ∧ EsperaDatos s' a.valor ∧ memoria s' = memoria s ∧ escritas s' = escritas s
  datos : ∀ s a count data, EsperaDatos s a → data.length = count.toNat + 1 →
    ∃ s', Contesta d ⟨s, []⟩ (count :: data ++ [xorDe (count :: data)]) 1 [ack] s'
      ∧ Lista ⟨s', []⟩ ∧ memoria s' = guardados (memoria s) a data
      ∧ escritas s' = escritas s ++ List.range' a data.length

-----------------------------------------------------------------------------------------
-- A device
-----------------------------------------------------------------------------------------

/-- `NACK` -/
def nack : Byte := 0x1F

/-- Where a bootloader is in the dialogue, with the bytes of the message so far. -/
inductive Fase
  | sinc
  | orden (leidos : List Byte)
  | direccion (lectura : Bool) (leidos : List Byte)
  | datos (a : Nat) (leidos : List Byte)
  | longitud (a : Nat) (leidos : List Byte)
  | borrado (leidos : List Byte)

structure Stm32 where
  fase : Fase
  memoria : Nat → Byte
  escritas : List Nat

namespace Stm32

/-- A refused message, behind which the device waits for a command. -/
def rechaza (s : Stm32) : Stm32 × List Byte := ({ s with fase := .orden [] }, [nack])

/-- The answer to a command whose complement was right; the plain erase is not supported. -/
def ejecuta (s : Stm32) (command : Byte) : Stm32 × List Byte :=
  let ready := { s with fase := .orden [] }
  if command = 0x00 then
    (ready, [ack, 11, 0x31, 0x00, 0x01, 0x02, 0x11, 0x21, 0x31, 0x44, 0x63, 0x73, 0x82, 0x92, ack])
  else if command = 0x01 then (ready, [ack, 0x31, 0x00, 0x00, ack])
  else if command = 0x02 then (ready, [ack, 0x01, 0x04, 0x10, ack])
  else if command = 0x11 then ({ s with fase := .direccion true [] }, [ack])
  else if command = 0x31 then ({ s with fase := .direccion false [] }, [ack])
  else if command = 0x44 then ({ s with fase := .borrado [] }, [ack])
  else s.rechaza

/-- One byte more; `ve` is what the device reads in place of a byte of its memory. -/
def recibe (ve : Byte → Byte) (s : Stm32) (byte : Byte) : Stm32 × List Byte :=
  match s.fase with
  | .sinc => if byte = 0x7F then ({ s with fase := .orden [] }, [ack]) else (s, [nack])
  | .orden [] => ({ s with fase := .orden [byte] }, [])
  | .orden (command :: _) => if byte = ~~~command then s.ejecuta command else s.rechaza
  | .direccion lectura [ms, mi, li, ls] =>
    if byte = xorDe [ms, mi, li, ls] then
      let a := (Direccion.mk ms mi li ls).valor
      ({ s with fase := if lectura then .longitud a [] else .datos a [] }, [ack])
    else s.rechaza
  | .direccion lectura leidos => ({ s with fase := .direccion lectura (leidos ++ [byte]) }, [])
  | .datos a [] => ({ s with fase := .datos a [byte] }, [])
  | .datos a (count :: data) =>
    if data.length ≤ count.toNat then ({ s with fase := .datos a (count :: data ++ [byte]) }, [])
    else if byte = xorDe (count :: data) then
      (⟨.orden [], guardados s.memoria a data, s.escritas ++ List.range' a data.length⟩, [ack])
    else s.rechaza
  | .longitud a [] => ({ s with fase := .longitud a [byte] }, [])
  | .longitud a (count :: _) =>
    if byte = ~~~count then
      let bytes := (List.range' a (count.toNat + 1)).map fun x => ve (s.memoria x)
      ({ s with fase := .orden [] }, ack :: bytes)
    else s.rechaza
  | .borrado leidos =>
    if leidos.length < 2 then ({ s with fase := .borrado (leidos ++ [byte]) }, [])
    else if byte = xorDe leidos then (⟨.orden [], fun _ => 0xff, s.escritas⟩, [ack])
    else s.rechaza

end Stm32

/-- The device, which waits for the synchronisation once its reset is released. -/
def stm32 (ve : Byte → Byte) : Dispositivo Stm32 where
  pin s pin level := if pin = .reset ∧ level then { s with fase := .sinc } else s
  recibe := Stm32.recibe ve
  pausa s _ := (s, [])

/-- The device when it is switched on. -/
def encendida : Linea Stm32 := ⟨⟨.sinc, fun _ => 0, []⟩, []⟩

theorem Dispositivo.recibidos_concat {σ : Type*} (d : Dispositivo σ) (s : σ) (bytes : List Byte)
    (byte : Byte)
    : d.recibidos s (bytes ++ [byte])
      = ((d.recibe (d.recibidos s bytes).1 byte).1,
          (d.recibidos s bytes).2 ++ (d.recibe (d.recibidos s bytes).1 byte).2) := by
  simp [Dispositivo.recibidos]

/-- The data of a page are collected, by induction on them from their end. -/
theorem stm32_datos (ve : Byte → Byte) {s : Stm32} {a : Nat} {count : Byte} {data : List Byte}
    (waits : s.fase = .datos a []) (room : data.length ≤ count.toNat + 1)
    : (stm32 ve).recibidos s (count :: data) = ({ s with fase := .datos a (count :: data) }, []) := by
  induction data using List.reverseRecOn with
  | nil =>
      simp only [Dispositivo.recibidos, List.foldl_cons, List.foldl_nil, stm32, Stm32.recibe, waits,
        List.append_nil]
  | append_singleton data byte ih =>
      rw [List.length_append, List.length_singleton] at room
      have inside : data.length ≤ count.toNat := by omega
      rw [← List.cons_append, Dispositivo.recibidos_concat, ih (by omega)]
      simp only [stm32, Stm32.recibe, if_pos inside, List.append_nil]

/-- The device is a bootloader as the card expects it, whatever it reads. -/
def stm32Bootloader (ve : Byte → Byte) : Bootloader (stm32 ve) where
  memoria := Stm32.memoria
  escritas := Stm32.escritas
  Lista l := l.estado.fase = .orden []
  EsperaDireccion s := s.fase = .direccion false []
  EsperaDatos s a := s.fase = .datos a []
  orden l ready := by
    refine ⟨{ l.estado with fase := .direccion false [] },
      contesta_enseguida ?_ (Nat.le_refl [ack].length), rfl, rfl, rfl⟩
    simp only [Dispositivo.recibidos, List.foldl_cons, List.foldl_nil, stm32, Stm32.recibe, ready]
    rfl
  direccion s a waits := by
    refine ⟨{ s with fase := .datos a.valor [] },
      contesta_enseguida ?_ (Nat.le_refl [ack].length), rfl, rfl, rfl⟩
    simp [Dispositivo.recibidos, stm32, Stm32.recibe, waits]
  datos s a count data waits whole := by
    refine ⟨⟨.orden [], guardados s.memoria a data, s.escritas ++ List.range' a data.length⟩,
      contesta_enseguida ?_ (Nat.le_refl [ack].length), rfl, rfl, rfl⟩
    have full : ¬data.length ≤ count.toNat := by omega
    rw [Dispositivo.recibidos_concat, stm32_datos ve waits (by omega)]
    simp only [stm32, Stm32.recibe, if_neg full, if_true, List.nil_append]

/-- Ready for commands, the device answers the read of a page with the bytes that it reads. -/
theorem stm32_respuestaLectura (ve : Byte → Byte) {l : Linea Stm32}
    (ready : l.estado.fase = .orden []) (address : Direccion)
    : respuestaLectura (stm32 ve) l address
      = (ack :: (List.range' address.valor 256).map (fun x => ve (l.estado.memoria x)),
          ⟨l.estado, []⟩) := by
  obtain ⟨⟨fase, memoria, escritas⟩, rx⟩ := l
  obtain rfl : fase = .orden [] := ready
  have command : (cmdRead (stm32 ve) ⟨⟨.orden [], memoria, escritas⟩, rx⟩).2
      = ⟨⟨.direccion true [], memoria, escritas⟩, []⟩ := by
    have answered : (stm32 ve).recibidos ⟨.orden [], memoria, escritas⟩ [0x11, 0xEE]
        = (⟨.direccion true [], memoria, escritas⟩, [ack]) := rfl
    exact (contesta_enseguida answered (Nat.le_refl 1)).tras (by simp)
  have load : (loadAddress (stm32 ve) ⟨⟨.direccion true [], memoria, escritas⟩, []⟩ address).2
      = ⟨⟨.longitud address.valor [], memoria, escritas⟩, []⟩ := by
    have answered : (stm32 ve).recibidos ⟨.direccion true [], memoria, escritas⟩
        [address.ms, address.mi, address.li, address.ls,
          xorDe [address.ms, address.mi, address.li, address.ls]]
        = (⟨.longitud address.valor [], memoria, escritas⟩, [ack]) := by
      simp [Dispositivo.recibidos, stm32, Stm32.recibe]
    exact loadAddress_contesta (List.cons_ne_nil _ _)
      (contesta_enseguida answered (Nat.le_refl 1))
  have length : (stm32 ve).recibidos ⟨.longitud address.valor [], memoria, escritas⟩ [0xFF, 0x00]
      = (⟨.orden [], memoria, escritas⟩,
          ack :: (List.range' address.valor 256).map fun x => ve (memoria x)) := rfl
  rw [respuestaLectura, command, load]
  exact (contesta_enseguida length (by simp)).respuesta (List.cons_ne_nil _ _)

end EspHttpControl.Flash
