import EspHttpControl.CText.Cells
import EspHttpControl.CText.Strtok

/-! The event handler of the HTTP client, which copies response data into the buffer of the
request. Every request of the firmware passes such a buffer, so the handler's own output buffer
stays NULL and is left out.
-/

namespace EspHttpControl.Client

open CText

/-- `MAX_HTTP_OUTPUT_BUFFER` -/
def maxHttpOutputBuffer : Nat := 2048

abbrev Buffer := Vector Char maxHttpOutputBuffer

/-- The events of `esp_http_client_perform`; data come with whether the response is chunked. -/
inductive Evento
  | error
  | onConnected
  | headerSent
  | onHeader
  | onData (chunked : Bool) (data : List Char)
  | onFinish
  | disconnected
deriving DecidableEq, Repr

/-- What the handler works on: its static `output_len` and the buffer in `user_data`. -/
structure Salida where
  outputLen : Nat
  userData : Buffer

/-- `_http_event_handler`; `none` when the data do not fit the buffer. -/
def httpEventHandler (s : Salida) : Evento → Option Salida
  | .onData false data =>
    (copyAt s.userData s.outputLen data).map fun userData =>
      ⟨s.outputLen + data.length, userData⟩
  | .onFinish => some { s with outputLen := 0 }
  | .disconnected => some { s with outputLen := 0 }
  | _ => some s

/-- The events of one request, in order. -/
def perform (s : Salida) (eventos : List Evento) : Option Salida :=
  eventos.foldlM httpEventHandler s

/-- How a request goes: it fails without data, or it delivers a body in some pieces. -/
inductive Intento
  | falla
  | entrega (chunked : Bool) (trozos : List (List Char))

def Intento.eventos : Intento → List Evento
  | .falla => [.error, .disconnected]
  | .entrega chunked trozos =>
    [.onConnected, .headerSent, .onHeader] ++ trozos.map (.onData chunked)
      ++ [.onFinish, .disconnected]

/-- The body that the request delivered. -/
def Intento.cuerpo : Intento → Option (List Char)
  | .falla => none
  | .entrega _ trozos => some trozos.flatten

/-- The bytes that the handler copies; the data of a chunked response are dropped. -/
def Intento.copiado : Intento → List Char
  | .falla => []
  | .entrega true _ => []
  | .entrega false trozos => trozos.flatten

/-- The pieces of a response are copied one behind the other, by induction on the pieces. -/
theorem perform_trozos (trozos : List (List Char)) (front : List Char) (buffer : Buffer)
    (room : front.length ≤ maxHttpOutputBuffer)
    : perform ⟨front.length, overlay buffer front⟩ (trozos.map (.onData false))
      = if (front ++ trozos.flatten).length ≤ maxHttpOutputBuffer then
          some ⟨(front ++ trozos.flatten).length, overlay buffer (front ++ trozos.flatten)⟩
        else none := by
  induction trozos generalizing front with
  | nil =>
      rw [List.flatten_nil, List.append_nil, if_pos room]
      rfl
  | cons data rest ih =>
      rw [List.flatten_cons, ← List.append_assoc]
      by_cases fits : (front ++ data).length ≤ maxHttpOutputBuffer
      · have copied : httpEventHandler ⟨front.length, overlay buffer front⟩ (.onData false data)
            = some ⟨(front ++ data).length, overlay buffer (front ++ data)⟩ := by
          rw [httpEventHandler, copyAt_overlay fits, Option.map_some, List.length_append]
        rw [← ih (front ++ data) fits, perform, List.map_cons, List.foldlM_cons, copied]
        rfl
      · have long : maxHttpOutputBuffer < (front ++ data).length := Nat.not_le.mp fits
        have refused : httpEventHandler ⟨front.length, overlay buffer front⟩ (.onData false data)
            = none := by
          rw [httpEventHandler, copyAt_eq_none long, Option.map_none]
        have longer : ¬(front ++ data ++ rest.flatten).length ≤ maxHttpOutputBuffer := by
          rw [List.length_append]
          omega
        rw [if_neg longer, perform, List.map_cons, List.foldlM_cons, refused]
        rfl

/-- The data of a chunked response change nothing, by induction on the pieces. -/
theorem perform_chunked (trozos : List (List Char)) (s : Salida)
    : perform s (trozos.map (.onData true)) = some s := by
  induction trozos with
  | nil => rfl
  | cons data rest ih => exact ih

theorem perform_append (s : Salida) (first second : List Evento)
    : perform s (first ++ second) = (perform s first).bind fun s => perform s second :=
  List.foldlM_append

/-- A request that finds the length reset leaves the copied bytes over the old content of the
buffer and the length reset again; it fails when they do not fit.
-/
theorem perform_intento (i : Intento) (buffer : Buffer)
    : perform ⟨0, buffer⟩ i.eventos
      = if i.copiado.length ≤ maxHttpOutputBuffer then some ⟨0, overlay buffer i.copiado⟩
        else none := by
  cases i with
  | falla => simp [Intento.eventos, Intento.copiado, perform, httpEventHandler]
  | entrega chunked trozos =>
      rw [Intento.eventos, perform_append, perform_append]
      have opened : perform ⟨0, buffer⟩ [.onConnected, .headerSent, .onHeader]
          = some ⟨0, buffer⟩ := rfl
      have closed (s : Salida) : perform s [.onFinish, .disconnected] = some ⟨0, s.userData⟩ := rfl
      rw [opened, Option.bind_some]
      cases chunked with
      | true =>
          rw [perform_chunked, Option.bind_some, closed]
          simp [Intento.copiado]
      | false =>
          have copied := perform_trozos trozos [] buffer (Nat.zero_le _)
          rw [overlay_nil, List.nil_append, List.length_nil] at copied
          rw [copied, Intento.copiado]
          split
          · rw [Option.bind_some, closed]
          · rfl

end EspHttpControl.Client
