import EspHttpControl.Client.EventHandler
import EspHttpControl.Machines.Runs

/-! Two requests under way at once.
The login task and the tasks of the two buttons run their requests through one event handler.
Each request has its own buffer, but the handler's static `output_len` is shared.
-/

namespace EspHttpControl.Client

open CText Machines

/-- Whose buffer is in `user_data`: `local_response_buffer` of the login, or
`local_response_buffer2` of a frame.
-/
inductive Solicitud
  | login | trama
deriving DecidableEq, Repr

namespace Solicitud

def otra : Solicitud → Solicitud
  | .login => .trama
  | .trama => .login

theorem eq_or_eq_otra (r q : Solicitud) : q = r ∨ q = r.otra := by
  cases r <;> cases q <;> simp [otra]

end Solicitud

/-- The static `output_len` and the buffers of both requests. -/
structure Compartido where
  outputLen : Nat
  buffers : Solicitud → Buffer

/-- The handler over the events of both requests, in the order in which they arrive. -/
def despacho : Machine Compartido (Solicitud × Evento) where
  step s evento :=
    (httpEventHandler ⟨s.outputLen, s.buffers evento.1⟩ evento.2).map fun salida =>
      ⟨salida.outputLen, Function.update s.buffers evento.1 salida.userData⟩

namespace Evento

/-- The body bytes that an event delivers. -/
def datos : Evento → List Char
  | .onData _ data => data
  | _ => []

/-- The bytes that the handler copies; the data of a chunked response are dropped. -/
def copiado : Evento → List Char
  | .onData false data => data
  | _ => []

/-- The events that set `output_len` back to 0. -/
def Reinicia : Evento → Prop
  | .onFinish => True
  | .disconnected => True
  | _ => False

instance (evento : Evento) : Decidable evento.Reinicia := by
  cases evento <;> simp only [Reinicia] <;> infer_instance

/-- The same event up to the bytes that it carries. -/
def MismaForma : Evento → Evento → Prop
  | .onData chunked data, .onData chunked' data' => chunked = chunked' ∧ data.length = data'.length
  | evento, evento' => evento = evento'

end Evento

/-- The events of one of the requests, in order. -/
def eventosDe (r : Solicitud) (mezcla : List (Solicitud × Evento)) : List Evento :=
  (mezcla.filter (·.1 = r)).map Prod.snd

/-- The body bytes that a request delivers. -/
def datosDe (r : Solicitud) (mezcla : List (Solicitud × Evento)) : List Char :=
  (eventosDe r mezcla).flatMap Evento.datos

/-- The bytes of a request that are copied. -/
def copiadoDe (r : Solicitud) (mezcla : List (Solicitud × Evento)) : List Char :=
  (eventosDe r mezcla).flatMap Evento.copiado

/-- What the events of one request look like: the body fits the buffer, it comes before the
end of the request, and it is chunked as a whole or not at all.
-/
structure Respuesta (eventos : List Evento) : Prop where
  cabe : (eventos.flatMap Evento.datos).length ≤ maxHttpOutputBuffer
  alFinal : ∀ antes fin despues, eventos = antes ++ fin :: despues → fin.Reinicia →
    despues.flatMap Evento.datos = []
  forma : ∀ chunked data chunked' data', .onData chunked data ∈ eventos →
    .onData chunked' data' ∈ eventos → chunked = chunked'

/-- What should hold of two requests: nothing is copied beyond a buffer, and once the last byte
of a request was delivered, its buffer starts with its own body.
-/
def Intactas (buffers : Solicitud → Buffer) (mezcla : List (Solicitud × Evento)) : Prop :=
  ∀ before after,
    mezcla = before ++ after
    → ∃ s,
        despacho.run ⟨0, buffers⟩ before = some s
        ∧ ∀ r : Solicitud,
            datosDe r after = []
            → (s.buffers r).toList.take (datosDe r mezcla).length = datosDe r mezcla

/-- The events so far leave `output_len` to the request alone: before the last finish or
disconnection it had delivered nothing, and since then the other one has had nothing copied.
-/
def Suya (r : Solicitud) (before : List (Solicitud × Evento)) : Prop :=
  ∃ previo resto,
    before = previo ++ resto
    ∧ (previo = [] ∨ ∃ antes fin, previo = antes ++ [fin] ∧ fin.2.Reinicia)
    ∧ (∀ evento ∈ resto, ¬evento.2.Reinicia)
    ∧ datosDe r previo = []
    ∧ copiadoDe r.otra resto = []

/-- No request is disturbed: each piece of a body is copied, and it arrives while the handler's
length is the request's own.
-/
def Apartadas (mezcla : List (Solicitud × Evento)) : Prop :=
  ∀ before r chunked data after,
    mezcla = before ++ (r, .onData chunked data) :: after
    → data ≠ []
    → chunked = false ∧ Suya r before

-----------------------------------------------------------------------------------------
-- The shared length
-----------------------------------------------------------------------------------------

/-- What an event makes of `output_len`. -/
def avanza (len : Nat) (evento : Solicitud × Evento) : Nat :=
  if evento.2.Reinicia then 0 else len + evento.2.copiado.length

/-- `output_len` behind the events, from 0. -/
def contados (mezcla : List (Solicitud × Evento)) : Nat := mezcla.foldl avanza 0

theorem datosDe_append (r : Solicitud) (first second : List (Solicitud × Evento))
    : datosDe r (first ++ second) = datosDe r first ++ datosDe r second := by
  simp [datosDe, eventosDe]

theorem datosDe_cons (r q : Solicitud) (evento : Evento) (rest : List (Solicitud × Evento))
    : datosDe r ((q, evento) :: rest) = (if q = r then evento.datos else []) ++ datosDe r rest := by
  by_cases own : q = r <;> simp [datosDe, eventosDe, own]

theorem copiadoDe_cons (r q : Solicitud) (evento : Evento) (rest : List (Solicitud × Evento))
    : copiadoDe r ((q, evento) :: rest)
      = (if q = r then evento.copiado else []) ++ copiadoDe r rest := by
  by_cases own : q = r <;> simp [copiadoDe, eventosDe, own]

/-- The bytes of a request that is not chunked are all copied, by induction on the events. -/
theorem copiadoDe_eq {r : Solicitud} {mezcla : List (Solicitud × Evento)}
    (entera : ∀ chunked data, .onData chunked data ∈ eventosDe r mezcla → chunked = false)
    : copiadoDe r mezcla = datosDe r mezcla := by
  rw [copiadoDe, datosDe]
  refine List.flatMap_congr fun evento member => ?_
  cases evento with
  | onData chunked data =>
      obtain rfl := entera chunked data member
      rfl
  | _ => rfl

/-- The last end of a request cuts the events in two. -/
theorem ultimo_fin (before : List (Solicitud × Evento))
    : ∃ previo resto,
        before = previo ++ resto
        ∧ (previo = [] ∨ ∃ antes fin, previo = antes ++ [fin] ∧ fin.2.Reinicia)
        ∧ ∀ evento ∈ resto, ¬evento.2.Reinicia := by
  induction before using List.reverseRecOn with
  | nil => exact ⟨[], [], rfl, Or.inl rfl, by simp⟩
  | append_singleton before evento ih =>
      by_cases ends : evento.2.Reinicia
      · exact ⟨before ++ [evento], [], by simp, Or.inr ⟨before, evento, rfl, ends⟩, by simp⟩
      · obtain ⟨previo, resto, rfl, cut, free⟩ := ih
        refine ⟨previo, resto ++ [evento], by simp, cut, fun other member => ?_⟩
        rcases List.mem_append.mp member with inside | last
        · exact free other inside
        · exact List.mem_singleton.mp last ▸ ends

/-- Without an end the length grows by the copied bytes of both requests. -/
theorem avanza_resto {resto : List (Solicitud × Evento)}
    (free : ∀ evento ∈ resto, ¬evento.2.Reinicia) (r : Solicitud) (len : Nat)
    : resto.foldl avanza len
      = len + (copiadoDe r resto).length + (copiadoDe r.otra resto).length := by
  induction resto generalizing len with
  | nil => rfl
  | cons evento rest ih =>
      obtain ⟨q, evento⟩ := evento
      have running : ¬evento.Reinicia := free (q, evento) List.mem_cons_self
      have later := ih (fun other member => free other (List.mem_cons_of_mem _ member))
        (len + evento.copiado.length)
      rw [List.foldl_cons, avanza, if_neg running, later, copiadoDe_cons, copiadoDe_cons]
      rcases r.eq_or_eq_otra q with rfl | rfl
      · cases q <;> simp [Solicitud.otra] <;> omega
      · cases r <;> simp [Solicitud.otra] <;> omega

/-- Behind the last end only the bytes copied since then are counted. -/
theorem contados_corte {previo resto : List (Solicitud × Evento)}
    (cut : previo = [] ∨ ∃ antes fin, previo = antes ++ [fin] ∧ fin.2.Reinicia)
    (free : ∀ evento ∈ resto, ¬evento.2.Reinicia) (r : Solicitud)
    : contados (previo ++ resto)
      = (copiadoDe r resto).length + (copiadoDe r.otra resto).length := by
  have reset : previo.foldl avanza 0 = 0 := by
    rcases cut with rfl | ⟨antes, fin, rfl, ends⟩
    · rfl
    · rw [List.foldl_append, List.foldl_cons, List.foldl_nil, avanza, if_pos ends]
  rw [contados, List.foldl_append, reset, avanza_resto free r, Nat.zero_add]

theorem copiadoDe_nil {r : Solicitud} {mezcla : List (Solicitud × Evento)}
    (none' : datosDe r mezcla = [])
    : copiadoDe r mezcla = [] := by
  refine List.flatMap_eq_nil_iff.mpr fun evento member => ?_
  have empty := List.flatMap_eq_nil_iff.mp none' evento member
  cases evento with
  | onData chunked data => cases chunked <;> first | exact empty | rfl
  | _ => rfl

/-- Behind its end a request has no bytes. -/
theorem datosDe_fin {mezcla antes resto : List (Solicitud × Evento)} {q : Solicitud}
    {fin : Evento} (bien : Respuesta (eventosDe q mezcla))
    (same : mezcla = antes ++ (q, fin) :: resto) (ends : fin.Reinicia)
    : datosDe q resto = [] := by
  refine bien.alFinal (eventosDe q antes) fin (eventosDe q resto) ?_ ends
  simp [same, eventosDe]

/-- The length is the number of bytes that a request has delivered exactly if the events leave
it to the request. Witness: an end of the other request comes after all its bytes, and no end of
the request itself has come yet.
-/
theorem suya_iff {mezcla before after : List (Solicitud × Evento)} {r : Solicitud}
    {data : List Char} (bien : ∀ r, Respuesta (eventosDe r mezcla))
    (same : mezcla = before ++ (r, .onData false data) :: after) (some' : data ≠ [])
    : Suya r before ↔ contados before = (datosDe r before).length := by
  have entera {parte : List (Solicitud × Evento)} (within : parte ⊆ before)
      : copiadoDe r parte = datosDe r parte := by
    refine copiadoDe_eq fun chunked other member => ?_
    obtain ⟨⟨q, evento⟩, among, rfl⟩ := List.mem_map.mp member
    obtain ⟨inside, own⟩ := List.mem_filter.mp among
    have earlier : (q, .onData chunked other) ∈ mezcla := by
      rw [same]
      exact List.mem_append_left _ (within inside)
    refine (bien r).forma chunked other false data ?_ ?_
    · exact List.mem_map_of_mem (f := Prod.snd) (List.mem_filter.mpr ⟨earlier, own⟩)
    · simp [same, eventosDe]
  constructor
  · intro suya
    obtain ⟨previo, resto, rfl, cut, free, none', other⟩ := suya
    rw [contados_corte cut free r, other, datosDe_append, none',
      entera (List.subset_append_right previo resto)]
    rfl
  · intro counted
    obtain ⟨previo, resto, rfl, cut, free⟩ := ultimo_fin before
    rw [contados_corte cut free r, datosDe_append, List.length_append,
      entera (List.subset_append_right previo resto)] at counted
    refine ⟨previo, resto, rfl, cut, free, ?_⟩
    suffices alone : datosDe r previo = [] ∨ copiadoDe r.otra resto = [] by
      rcases alone with none' | none'
      · rw [none', List.length_nil] at counted
        exact ⟨none', List.eq_nil_of_length_eq_zero (by omega)⟩
      · rw [none', List.length_nil] at counted
        exact ⟨List.eq_nil_of_length_eq_zero (by omega), none'⟩
    rcases cut with rfl | ⟨antes, ⟨q, fin⟩, rfl, ends⟩
    · exact Or.inl rfl
    · have later : mezcla = antes ++ (q, fin) :: (resto ++ (r, .onData false data) :: after) := by
        simp [same]
      have ended := datosDe_fin (bien q) later ends
      rw [datosDe_append, List.append_eq_nil_iff, datosDe_cons] at ended
      rcases r.eq_or_eq_otra q with rfl | rfl
      · simp [Evento.datos, some'] at ended
      · exact Or.inr (copiadoDe_nil ended.1)

-----------------------------------------------------------------------------------------
-- Requests that leave each other alone
-----------------------------------------------------------------------------------------

/-- The buffers hold what the requests delivered, over their old content. -/
structure Sigue (buffers : Solicitud → Buffer) (before : List (Solicitud × Evento))
    (s : Compartido)
    : Prop where
  len : s.outputLen = contados before
  cabe : s.outputLen ≤ maxHttpOutputBuffer
  buffers : ∀ r, s.buffers r = overlay (buffers r) (datosDe r before)

theorem contados_concat (before : List (Solicitud × Evento)) (evento : Solicitud × Evento)
    : contados (before ++ [evento]) = avanza (contados before) evento := by
  simp [contados]

/-- An event whose bytes are not copied touches no buffer. -/
theorem despacho_sin_copia {evento : Evento} (sin : ∀ data, evento ≠ .onData false data)
    (s : Compartido) (r : Solicitud)
    : despacho.step s (r, evento) = some ⟨avanza s.outputLen (r, evento), s.buffers⟩ := by
  cases evento with
  | onData chunked data =>
      cases chunked with
      | false => exact absurd rfl (sin data)
      | true => simp [despacho, httpEventHandler, avanza, Evento.Reinicia, Evento.copiado]
  | _ => simp [despacho, httpEventHandler, avanza, Evento.Reinicia, Evento.copiado]

/-- A piece of a body is copied behind the shared length. -/
theorem despacho_copia (s : Compartido) (r : Solicitud) (data : List Char)
    : despacho.step s (r, .onData false data)
      = (copyAt (s.buffers r) s.outputLen data).map fun userData =>
        ⟨s.outputLen + data.length, Function.update s.buffers r userData⟩ := by
  simp [despacho, httpEventHandler, Option.map_map]
  rfl

theorem copyAt_nil {v : Buffer} {len : Nat} (inside : len ≤ maxHttpOutputBuffer)
    : copyAt v len [] = some v := by
  have room : len + ([] : List Char).length ≤ maxHttpOutputBuffer := by
    simpa only [List.length_nil, Nat.add_zero] using inside
  rw [copyAt, if_pos room, Option.some.injEq]
  ext i bound
  simp

theorem datosDe_concat (q r : Solicitud) (before : List (Solicitud × Evento)) (evento : Evento)
    : datosDe q (before ++ [(r, evento)])
      = datosDe q before ++ if r = q then evento.datos else [] := by
  rw [datosDe_append, datosDe_cons]
  simp [datosDe, eventosDe]

section Step

variable {buffers : Solicitud → Buffer} {mezcla before after : List (Solicitud × Evento)}
variable {r : Solicitud} {evento : Evento} {data : List Char} {s : Compartido}

/-- An event without bytes leaves the buffers and does not raise the length. -/
theorem Sigue.silencio (sigue : Sigue buffers before s) (nothing : evento.datos = [])
    : Sigue buffers (before ++ [(r, evento)]) ⟨avanza s.outputLen (r, evento), s.buffers⟩ := by
  refine ⟨?_, ?_, fun q => ?_⟩
  · rw [contados_concat, sigue.len]
  · have copied : evento.copiado = [] := by
      cases evento with
      | onData chunked data => cases chunked <;> first | exact nothing | rfl
      | _ => rfl
    have low := sigue.cabe
    simp only [avanza, copied, List.length_nil, Nat.add_zero]
    split
    · exact Nat.zero_le _
    · exact low
  · rw [sigue.buffers q, datosDe_concat q, nothing, ite_self, List.append_nil]

/-- A piece that arrives while the length is the request's own is copied behind its body. -/
theorem Sigue.copia (sigue : Sigue buffers before s)
    (own : s.outputLen = (datosDe r before).length)
    (room : (datosDe r before ++ data).length ≤ maxHttpOutputBuffer)
    : ∃ s', despacho.step s (r, .onData false data) = some s'
        ∧ Sigue buffers (before ++ [(r, .onData false data)]) s' := by
  have taken : despacho.step s (r, .onData false data)
      = some ⟨s.outputLen + data.length,
          Function.update s.buffers r (overlay (buffers r) (datosDe r before ++ data))⟩ := by
    rw [despacho_copia, sigue.buffers r, own, copyAt_overlay room, Option.map_some]
  refine ⟨_, taken, ?_, ?_, fun q => ?_⟩
  · rw [contados_concat, sigue.len]
    rfl
  · rw [own, ← List.length_append]
    exact room
  · rw [datosDe_concat q]
    by_cases mine : r = q
    · subst mine
      simp only [Function.update_self, if_true]
      rfl
    · simp only [Function.update_of_ne (Ne.symm mine), sigue.buffers q, if_neg mine,
        List.append_nil]

/-- A body fits its buffer at every piece. -/
theorem cabe_trozo (bien : ∀ r, Respuesta (eventosDe r mezcla))
    (same : mezcla = before ++ (r, .onData false data) :: after)
    : (datosDe r before ++ data).length ≤ maxHttpOutputBuffer := by
  have whole := (bien r).cabe
  have cut : (eventosDe r mezcla).flatMap Evento.datos
      = datosDe r before ++ data ++ datosDe r after := by
    rw [← datosDe, same, datosDe_append, datosDe_cons, if_pos rfl, List.append_assoc]
    rfl
  rw [cut, List.length_append] at whole
  omega

/-- One event more keeps the buffers as they should be, by the kind of the event. -/
theorem Sigue.step (bien : ∀ r, Respuesta (eventosDe r mezcla)) (apartadas : Apartadas mezcla)
    (same : mezcla = before ++ (r, evento) :: after) (sigue : Sigue buffers before s)
    : ∃ s', despacho.step s (r, evento) = some s'
        ∧ Sigue buffers (before ++ [(r, evento)]) s' := by
  by_cases copied : ∃ data, evento = .onData false data
  · obtain ⟨data, rfl⟩ := copied
    by_cases some' : data = []
    · subst some'
      refine ⟨_, ?_, sigue.silencio rfl⟩
      rw [despacho_copia, copyAt_nil sigue.cabe, Option.map_some, Function.update_eq_self]
      rfl
    · obtain ⟨-, suya⟩ := apartadas before r false data after same some'
      have own : s.outputLen = (datosDe r before).length := by
        rw [sigue.len, (suya_iff bien same some').mp suya]
      exact sigue.copia own (cabe_trozo bien same)
  · have sin : ∀ data, evento ≠ .onData false data := fun data same => copied ⟨data, same⟩
    refine ⟨_, despacho_sin_copia sin s r, sigue.silencio ?_⟩
    cases evento with
    | onData chunked data =>
        by_contra some'
        obtain ⟨rfl, -⟩ := apartadas before r chunked data after same some'
        exact sin data rfl
    | _ => rfl

end Step

/-- A run over requests that leave each other alone goes through, by induction on the events. -/
theorem sigue_run {mezcla : List (Solicitud × Evento)}
    (bien : ∀ r, Respuesta (eventosDe r mezcla)) (apartadas : Apartadas mezcla)
    (buffers : Solicitud → Buffer) {before after : List (Solicitud × Evento)}
    (same : mezcla = before ++ after)
    : ∃ s, despacho.run ⟨0, buffers⟩ before = some s ∧ Sigue buffers before s := by
  induction before using List.reverseRecOn generalizing after with
  | nil =>
      refine ⟨_, rfl, rfl, Nat.zero_le _, fun r => ?_⟩
      rw [datosDe, eventosDe, List.filter_nil, List.map_nil, List.flatMap_nil, overlay_nil]
  | append_singleton before evento ih =>
      rw [List.append_assoc, List.singleton_append] at same
      obtain ⟨s, reached, sigue⟩ := ih same
      obtain ⟨s', taken, next⟩ := sigue.step bien apartadas same
      refine ⟨s', ?_, next⟩
      rw [Machine.run_append, reached, Option.bind_some, Machine.run_cons, taken]
      rfl

/-- Requests that leave each other alone are not disturbed, whatever was in the buffers. -/
theorem Apartadas.intactas {mezcla : List (Solicitud × Evento)} (apartadas : Apartadas mezcla)
    (bien : ∀ r, Respuesta (eventosDe r mezcla)) (buffers : Solicitud → Buffer)
    : Intactas buffers mezcla := by
  intro before after same
  obtain ⟨s, reached, sigue⟩ := sigue_run bien apartadas buffers same
  refine ⟨s, reached, fun r ended => ?_⟩
  have all : datosDe r mezcla = datosDe r before := by
    rw [same, datosDe_append, ended, List.append_nil]
  have fits : (datosDe r before).length ≤ maxHttpOutputBuffer := all ▸ (bien r).cabe
  rw [sigue.buffers r, toList_overlay_append fits, all, List.take_left']
  rfl

end EspHttpControl.Client
