import EspHttpControl.CText.Cells
import EspHttpControl.CText.Decimal

/-! The sensor modules of the card and the arrays that keep their last readings.
Readings are 32-bit integers apart from the position record; the `id` of each record is never
read or written and is left out.
-/

namespace EspHttpControl.Serial

open CText

/-- `ModulosApp`, in the order of the enumeration. -/
inductive ModulosApp
  | noneModule | temperatureSensors | humedadSensors | voltajeSensors | digitalInputSensors
  | proximidadSensors | liquidoSensors | inclinacionSensors | gpsSensors | analogicoSensors
  | temporizadoresSensors | digitalOutputSensors | ventiladorSensors | uidResponse
deriving DecidableEq, Repr

/-- The enumerator's number as a frame carries it. -/
def ModulosApp.num (modulo : ModulosApp) : UInt8 := UInt8.ofNat modulo.ctorIdx

/-- A record with one reading. -/
structure Lectura where
  valor1 : Int32
deriving DecidableEq, Repr

abbrev Temperaturas := Lectura

abbrev DigitalInputs := Lectura

abbrev Interruptores := Lectura

abbrev Ventiladores := Lectura

structure Analogicos where
  valor1 : Int32
  valor2 : Int32
deriving DecidableEq, Repr

structure Tanques where
  valor1 : Int32
  valor2 : Int32
  valor3 : Int32
  valor4 : Int32
  valor5 : Int32
deriving DecidableEq, Repr

structure Inclinaciones where
  valor1 : Int32
  valor2 : Int32
  valor3 : Int32
deriving DecidableEq, Repr

/-- `GPS`: fix, timestamp, latitude, longitude, precision, height, speed and azimuth. The
timestamp is a pointer, which may be NULL; the two floats are kept as their bits.
-/
structure GPS where
  valor1 : Bool
  valor2 : Option Str
  valor3 : UInt32
  valor4 : UInt32
  valor5 : UInt16
  valor6 : UInt16
  valor7 : UInt16
  valor8 : UInt16
deriving DecidableEq, Repr

/-- `modulos_response`, the modules that answered in the running cycle. -/
structure ModulosResponse where
  temperatura : Bool
  liquido : Bool
  digitalInput : Bool
  inclinacion : Bool
  gps : Bool
  analogico : Bool
  digitalOutput : Bool
  ventilador : Bool
deriving DecidableEq, Repr

/-- The record after `memset(&verificador, 0, sizeof(verificador))`. -/
def ModulosResponse.cero : ModulosResponse :=
  ⟨false, false, false, false, false, false, false, false⟩

/-- The static memory of the serial controller: the arrays of readings, and the event bit that
says that no frame is being parsed.
-/
structure SerialRam where
  temperatura : Vector Temperaturas 3
  digitalInput : Vector DigitalInputs 1
  analogico : Vector Analogicos 8
  tanque : Vector Tanques 4
  inclinacion : Vector Inclinaciones 1
  sensorGPS : Vector GPS 1
  interruptor : Vector Interruptores 2
  ventilador : Vector Ventiladores 2
  notParsingData : Bool
deriving DecidableEq, Repr

/-- Static memory at boot: zeros, NULL pointers and a clear event bit. -/
def SerialRam.inicial : SerialRam :=
  {
    temperatura := Vector.replicate 3 ⟨0⟩
    digitalInput := Vector.replicate 1 ⟨0⟩
    analogico := Vector.replicate 8 ⟨0, 0⟩
    tanque := Vector.replicate 4 ⟨0, 0, 0, 0, 0⟩
    inclinacion := Vector.replicate 1 ⟨0, 0, 0⟩
    sensorGPS := Vector.replicate 1 ⟨false, none, 0, 0, 0, 0, 0, 0⟩
    interruptor := Vector.replicate 2 ⟨0⟩
    ventilador := Vector.replicate 2 ⟨0⟩
    notParsingData := false
  }

/-- Where the memory keeps the temperatures; the other modules follow. -/
def enTemperatura : Place SerialRam Temperaturas 3 :=
  ⟨(·.temperatura), fun s v => { s with temperatura := v }, by simp, by simp, by simp⟩

def enDigitalInput : Place SerialRam DigitalInputs 1 :=
  ⟨(·.digitalInput), fun s v => { s with digitalInput := v }, by simp, by simp, by simp⟩

def enAnalogico : Place SerialRam Analogicos 8 :=
  ⟨(·.analogico), fun s v => { s with analogico := v }, by simp, by simp, by simp⟩

def enTanque : Place SerialRam Tanques 4 :=
  ⟨(·.tanque), fun s v => { s with tanque := v }, by simp, by simp, by simp⟩

def enSensorGPS : Place SerialRam GPS 1 :=
  ⟨(·.sensorGPS), fun s v => { s with sensorGPS := v }, by simp, by simp, by simp⟩

def enInterruptor : Place SerialRam Interruptores 2 :=
  ⟨(·.interruptor), fun s v => { s with interruptor := v }, by simp, by simp, by simp⟩

def enVentilador : Place SerialRam Ventiladores 2 :=
  ⟨(·.ventilador), fun s v => { s with ventilador := v }, by simp, by simp, by simp⟩

/-- What stops the firmware or leaves its behaviour undefined: a NULL pointer is used, a
payload overruns its buffer, a frame is read past its last token, or an array is written past
its end.
-/
inductive Fault
  | nullPointer | payloadOverflow | tokensExceeded | arrayExceeded
deriving DecidableEq, Repr

/-- A computation that ends well has ended well up to its last step. -/
theorem ok_of_bind {ε α β : Type} {x : Except ε α} {f : α → Except ε β} {b : β}
    (h : x >>= f = .ok b)
    : ∃ a, x = .ok a ∧ f a = .ok b := by
  cases x with
  | error fault => simp [bind, Except.bind] at h
  | ok a => exact ⟨a, rfl, h⟩

theorem ok_of_toOption {α : Type} {x : Except Fault α} {a : α} (h : x.toOption = some a)
    : x = .ok a := by
  cases x with
  | error fault => cases h
  | ok b => exact congrArg Except.ok (Option.some.inj h)

inductive EspErr
  | espOk | espFail
deriving DecidableEq, Repr

/-- `split_sensors`: the tokens of a string and their number in a byte. -/
def splitSensors (token : Str) (tokChar : Str) : List Str × UInt8 :=
  let tokens := strtokAll tokChar (token.length + 1) (some token)
  (tokens, UInt8.ofNat tokens.length)

theorem splitSensors_fst (token tokChar : Str)
    : (splitSensors token tokChar).1 = fields tokChar token :=
  strtokAll_eq_fields tokChar (token.length + 1) token (Nat.lt_succ_self _)

/-- `splitted[k]`, a fault beyond the last token. -/
def campo (tokens : List Str) (k : Nat) : Except Fault Str :=
  match tokens[k]? with
  | some token => .ok token
  | none => .error .tokensExceeded

@[simp]
theorem campo_zero (token : Str) (rest : List Str) : campo (token :: rest) 0 = .ok token :=
  rfl

@[simp]
theorem campo_succ (token : Str) (rest : List Str) (k : Nat)
    : campo (token :: rest) (k + 1) = campo rest k :=
  rfl

/-- A read of a part goes through exactly if there is that part and the rest goes through. -/
theorem exists_bind_campo {β : Type} {tokens : List Str} {k : Nat} {f : Str → Except Fault β}
    : (∃ b, campo tokens k >>= f = .ok b)
      ↔ ∃ below : k < tokens.length, ∃ b, f tokens[k] = .ok b := by
  by_cases below : k < tokens.length
  · have read : campo tokens k = .ok tokens[k] := by
      rw [campo, List.getElem?_eq_getElem below]
    rw [read]
    exact ⟨fun ended => ⟨below, ended⟩, fun ended => ended.2⟩
  · have read : campo tokens k = .error .tokensExceeded := by
      rw [campo, List.getElem?_eq_none (Nat.not_lt.mp below)]
    rw [read]
    refine iff_of_false ?_ fun ended => below ended.1
    rintro ⟨b, ended⟩
    cases ended

theorem exists_pure_ok {α : Type} (a : α) : ∃ b, (pure a : Except Fault α) = .ok b := ⟨a, rfl⟩

end EspHttpControl.Serial
