import Mathlib.Data.List.Forall2
import EspHttpControl.Client.Concurrencia

/-! The same events with other bytes.
How the events of two requests are mixed decides whether their bodies arrive whole; the bytes
of the bodies do not enter into it.
-/

namespace EspHttpControl.Client

open CText Machines

/-- Two mixtures of the same events, up to the bytes that they carry. -/
def MismasFormas : List (Solicitud × Evento) → List (Solicitud × Evento) → Prop :=
  List.Forall₂ fun evento otro => evento.1 = otro.1 ∧ evento.2.MismaForma otro.2

namespace Evento

theorem MismaForma.refl (evento : Evento) : evento.MismaForma evento := by
  cases evento <;> simp [MismaForma]

theorem MismaForma.symm {evento otro : Evento} (same : evento.MismaForma otro)
    : otro.MismaForma evento := by
  cases evento <;> cases otro <;> simp_all [MismaForma]

theorem MismaForma.datos_length {evento otro : Evento} (same : evento.MismaForma otro)
    : evento.datos.length = otro.datos.length := by
  cases evento <;> cases otro <;> simp_all [MismaForma, datos]

theorem MismaForma.copiado_length {evento otro : Evento} (same : evento.MismaForma otro)
    : evento.copiado.length = otro.copiado.length := by
  cases evento <;> cases otro <;> simp_all [MismaForma, copiado]
  case onData.onData chunked data chunked' data' =>
    cases chunked' <;> simp [same.2]

theorem MismaForma.reinicia {evento otro : Evento} (same : evento.MismaForma otro)
    (ends : evento.Reinicia)
    : otro.Reinicia := by
  cases evento <;> cases otro <;> simp_all [MismaForma, Reinicia]

theorem MismaForma.onData {chunked : Bool} {data : List Char} {otro : Evento}
    (same : otro.MismaForma (.onData chunked data))
    : ∃ data', otro = .onData chunked data' ∧ data'.length = data.length := by
  cases otro <;> simp_all [MismaForma]

end Evento

-----------------------------------------------------------------------------------------
-- What does not depend on the bytes
-----------------------------------------------------------------------------------------

theorem MismasFormas.symm {mezcla otra : List (Solicitud × Evento)}
    (same : MismasFormas mezcla otra)
    : MismasFormas otra mezcla :=
  List.Forall₂.flip (same.imp fun _ _ equal => ⟨equal.1.symm, equal.2.symm⟩)

/-- Two mixtures are cut at the same place. -/
theorem MismasFormas.corta {mezcla before after : List (Solicitud × Evento)}
    (same : MismasFormas mezcla (before ++ after))
    : ∃ antes despues,
        mezcla = antes ++ despues ∧ MismasFormas antes before ∧ MismasFormas despues after :=
  ⟨mezcla.take before.length, mezcla.drop before.length, (List.take_append_drop _ _).symm,
    List.forall₂_take_append _ _ _ same, List.forall₂_drop_append _ _ _ same⟩

theorem MismasFormas.eventosDe {mezcla otra : List (Solicitud × Evento)}
    (same : MismasFormas mezcla otra) (r : Solicitud)
    : List.Forall₂ Evento.MismaForma (eventosDe r mezcla) (eventosDe r otra) := by
  induction same with
  | nil => exact List.Forall₂.nil
  | @cons evento otro rest others equal _ ih =>
      have own : evento.1 = otro.1 := equal.1
      simp only [Client.eventosDe, List.filter_cons, own] at ih ⊢
      split
      · exact List.Forall₂.cons equal.2 ih
      · exact ih

theorem length_flatMap_misma {eventos otros : List Evento} {texto : Evento → List Char}
    (sized : ∀ evento otro : Evento,
      evento.MismaForma otro → (texto evento).length = (texto otro).length)
    (same : List.Forall₂ Evento.MismaForma eventos otros)
    : (eventos.flatMap texto).length = (otros.flatMap texto).length := by
  induction same with
  | nil => rfl
  | cons equal _ ih =>
      rw [List.flatMap_cons, List.flatMap_cons, List.length_append, List.length_append, ih,
        sized _ _ equal]

theorem MismasFormas.datos_length {mezcla otra : List (Solicitud × Evento)}
    (same : MismasFormas mezcla otra) (r : Solicitud)
    : (datosDe r mezcla).length = (datosDe r otra).length :=
  length_flatMap_misma (fun _ _ equal => equal.datos_length) (same.eventosDe r)

theorem MismasFormas.copiado_length {mezcla otra : List (Solicitud × Evento)}
    (same : MismasFormas mezcla otra) (r : Solicitud)
    : (copiadoDe r mezcla).length = (copiadoDe r otra).length :=
  length_flatMap_misma (fun _ _ equal => equal.copiado_length) (same.eventosDe r)

/-- The shared length counts bytes, whichever they are. -/
theorem MismasFormas.contados {mezcla otra : List (Solicitud × Evento)}
    (same : MismasFormas mezcla otra)
    : contados mezcla = contados otra := by
  suffices from' : ∀ len, mezcla.foldl avanza len = otra.foldl avanza len from from' 0
  induction same with
  | nil => exact fun _ => rfl
  | @cons evento otro _ _ equal _ ih =>
      intro len
      have step : avanza len evento = avanza len otro := by
        have ends : evento.2.Reinicia ↔ otro.2.Reinicia :=
          ⟨equal.2.reinicia, equal.2.symm.reinicia⟩
        simp only [avanza, ends, equal.2.copiado_length]
      rw [List.foldl_cons, List.foldl_cons, step, ih]

/-- Other bytes leave a response well formed. -/
theorem Respuesta.misma {eventos otros : List Evento} (bien : Respuesta eventos)
    (same : List.Forall₂ Evento.MismaForma eventos otros)
    : Respuesta otros := by
  have sized {a b : List Evento} (same : List.Forall₂ Evento.MismaForma a b)
      : (a.flatMap Evento.datos).length = (b.flatMap Evento.datos).length :=
    length_flatMap_misma (fun _ _ equal => equal.datos_length) same
  have among {otro : Evento} (member : otro ∈ otros)
      : ∃ evento ∈ eventos, evento.MismaForma otro := by
    obtain ⟨i, bound, rfl⟩ := List.getElem_of_mem member
    have inside : i < eventos.length := same.length_eq ▸ bound
    exact ⟨eventos[i], List.getElem_mem inside, same.get inside bound⟩
  refine ⟨sized same ▸ bien.cabe, ?_, ?_⟩
  · rintro antes fin despues rfl ends
    have front := List.forall₂_take_append _ _ _ same
    obtain ⟨fin', despues', equal, behind, cut⟩ :=
      List.forall₂_cons_right_iff.mp (List.forall₂_drop_append _ _ _ same)
    have whole : eventos = eventos.take antes.length ++ fin' :: despues' := by
      rw [← cut, List.take_append_drop]
    have empty := bien.alFinal _ _ _ whole (equal.symm.reinicia ends)
    have none' := sized behind
    rw [empty, List.length_nil] at none'
    exact List.eq_nil_of_length_eq_zero none'.symm
  · intro chunked data chunked' data' member member'
    obtain ⟨evento, inside, equal⟩ := among member
    obtain ⟨evento', inside', equal'⟩ := among member'
    obtain ⟨_, rfl, -⟩ := equal.onData
    obtain ⟨_, rfl, -⟩ := equal'.onData
    exact bien.forma _ _ _ _ inside inside'

theorem Suya.misma {r : Solicitud} {before otro : List (Solicitud × Evento)}
    (suya : Suya r before) (same : MismasFormas before otro)
    : Suya r otro := by
  obtain ⟨previo, resto, rfl, cut, free, nothing, others⟩ := suya
  obtain ⟨previo', resto', rfl, front, behind⟩ := same.symm.corta
  refine ⟨previo', resto', rfl, ?_, fun evento member ends => ?_, ?_, ?_⟩
  · rcases cut with rfl | ⟨antes, fin, rfl, ends⟩
    · exact Or.inl (List.forall₂_nil_right_iff.mp front)
    · obtain ⟨antes', fin', rfl, -, last⟩ := front.corta
      obtain ⟨otro, rest, equal, none', rfl⟩ := List.forall₂_cons_right_iff.mp last
      obtain rfl := List.forall₂_nil_right_iff.mp none'
      exact Or.inr ⟨antes', otro, rfl, equal.2.symm.reinicia ends⟩
  · obtain ⟨i, bound, rfl⟩ := List.getElem_of_mem member
    have inside : i < resto.length := behind.length_eq ▸ bound
    exact free _ (List.getElem_mem inside) ((behind.get bound inside).2.reinicia ends)
  · have sized := front.datos_length r
    rw [nothing, List.length_nil] at sized
    exact List.eq_nil_of_length_eq_zero sized
  · have sized := behind.copiado_length r.otra
    rw [others, List.length_nil] at sized
    exact List.eq_nil_of_length_eq_zero sized

/-- Whether two requests leave each other alone does not depend on their bytes. -/
theorem Apartadas.misma {mezcla otra : List (Solicitud × Evento)} (apartadas : Apartadas mezcla)
    (same : MismasFormas mezcla otra)
    : Apartadas otra := by
  rintro before r chunked data after rfl some'
  obtain ⟨antes, resto, rfl, front, behind⟩ := same.corta
  obtain ⟨⟨q, evento⟩, despues, ⟨own, equal⟩, -, rfl⟩ := List.forall₂_cons_right_iff.mp behind
  obtain ⟨data', rfl, sized⟩ := Evento.MismaForma.onData equal
  obtain rfl : q = r := own
  have filled : data' ≠ [] := fun none' => some' (by
    rw [none', List.length_nil] at sized
    exact List.eq_nil_of_length_eq_zero sized.symm)
  obtain ⟨whole, suya⟩ := apartadas antes q chunked data' despues rfl filled
  exact ⟨whole, suya.misma front⟩

-----------------------------------------------------------------------------------------
-- A piece in the wrong place
-----------------------------------------------------------------------------------------

/-- The event with blanks for bytes. -/
def Evento.enBlanco : Evento → Evento
  | .onData chunked data => .onData chunked (List.replicate data.length ' ')
  | evento => evento

/-- The events with blanks for bytes. -/
def enBlanco (mezcla : List (Solicitud × Evento)) : List (Solicitud × Evento) :=
  mezcla.map fun evento => (evento.1, evento.2.enBlanco)

theorem mismasFormas_enBlanco (mezcla : List (Solicitud × Evento))
    : MismasFormas mezcla (enBlanco mezcla) := by
  refine List.forall₂_map_right_iff.mpr (List.forall₂_same.mpr fun evento _ => ⟨rfl, ?_⟩)
  obtain ⟨q, evento⟩ := evento
  cases evento <;> simp [Evento.enBlanco, Evento.MismaForma]

theorem copiado_enBlanco {mezcla : List (Solicitud × Evento)} {evento : Solicitud × Evento}
    (member : evento ∈ enBlanco mezcla)
    : ∀ c ∈ evento.2.copiado, c = ' ' := by
  obtain ⟨⟨q, original⟩, -, rfl⟩ := List.mem_map.mp member
  cases original with
  | onData chunked data =>
      cases chunked <;> simp [Evento.enBlanco, Evento.copiado]
  | _ => simp [Evento.enBlanco, Evento.copiado]

/-- What an event does to the length and to one cell of one of the buffers. -/
theorem despacho_step {s s' : Compartido} {q : Solicitud} {evento : Evento}
    (taken : despacho.step s (q, evento) = some s')
    : s'.outputLen = avanza s.outputLen (q, evento)
      ∧ ∀ (r : Solicitud) (k : Nat),
          (s'.buffers r)[k]?
          = if q = r ∧ s.outputLen ≤ k then
              evento.copiado[k - s.outputLen]?.or (s.buffers r)[k]?
            else (s.buffers r)[k]? := by
  by_cases copies : ∃ data, evento = .onData false data
  · obtain ⟨data, rfl⟩ := copies
    rw [despacho_copia] at taken
    obtain ⟨userData, copied, rfl⟩ := Option.map_eq_some_iff.mp taken
    refine ⟨rfl, fun r k => ?_⟩
    by_cases own : q = r
    · subst own
      simp only [Function.update_self, getElem?_copyAt copied, Evento.copiado]
      grind
    · simp only [Function.update_of_ne (Ne.symm own), own, false_and, if_false]
  · rw [despacho_sin_copia fun data same => copies ⟨data, same⟩] at taken
    obtain rfl := Option.some.inj taken
    refine ⟨rfl, fun r k => ?_⟩
    have nothing : evento.copiado = [] := by
      cases evento with
      | onData chunked data =>
          cases chunked with
          | false => exact absurd ⟨data, rfl⟩ copies
          | true => rfl
      | _ => rfl
    simp [nothing]

/-- The length that the handler keeps, along any events. -/
theorem despacho_outputLen {buffers : Solicitud → Buffer} {mezcla : List (Solicitud × Evento)}
    {s : Compartido} (reached : despacho.run ⟨0, buffers⟩ mezcla = some s)
    : s.outputLen = contados mezcla := by
  refine @Machine.history_run _ _ despacho (fun before s => s.outputLen = contados before) _ _ _
    rfl ?_ reached
  intro before visited evento next _ counted taken
  rw [(despacho_step taken).1, counted, contados_concat]

/-- Blanks over a blank leave a blank. -/
theorem run_enBlanco {mezcla : List (Solicitud × Evento)} {s s' : Compartido} {r : Solicitud}
    {k : Nat} (reached : despacho.run s (enBlanco mezcla) = some s')
    (blank : (s.buffers r)[k]? = some ' ')
    : (s'.buffers r)[k]? = some ' ' := by
  have preserved (s : Compartido) (evento : Solicitud × Evento) (next : Compartido)
      (blanks : ∀ c ∈ evento.2.copiado, c = ' ') (before : (s.buffers r)[k]? = some ' ')
      (taken : despacho.step s evento = some next)
      : (next.buffers r)[k]? = some ' ' := by
    rw [(despacho_step taken).2 r k, before]
    split
    · cases here : evento.2.copiado[k - s.outputLen]? with
      | none => rfl
      | some c => exact congrArg some (blanks c (List.mem_of_getElem? here))
    · rfl
  exact Machine.invariant_run_of_inputs preserved (fun _ => copiado_enBlanco) blank reached

/-- A marked piece that is dropped, or that is copied to another place than a cell's, leaves a
blank there.
-/
theorem marca_fuera {s s' : Compartido} {r : Solicitud} {chunked : Bool} {k n : Nat}
    (taken : despacho.step s (r, .onData chunked ('*' :: List.replicate n ' ')) = some s')
    (apart : chunked = false → s.outputLen ≠ k) (blank : (s.buffers r)[k]? = some ' ')
    : (s'.buffers r)[k]? = some ' ' := by
  rw [(despacho_step taken).2 r k, blank]
  cases chunked with
  | true => simp [Evento.copiado]
  | false =>
      split
      · next inside =>
        obtain ⟨gap, behind⟩ :=
          Nat.exists_eq_add_of_lt (Nat.lt_of_le_of_ne inside.2 (apart rfl))
        have past : k - s.outputLen = gap + 1 := by omega
        rw [past]
        simp only [Evento.copiado, List.getElem?_cons_succ, List.getElem?_replicate]
        split <;> rfl
      · rfl

/-- A piece that is dropped, or that arrives while the length is not the request's own, misses
its place in the buffer: the first byte of the piece, unlike all others, shows it.
-/
theorem apartadas_of_intactas {mezcla : List (Solicitud × Evento)}
    (bien : ∀ r, Respuesta (eventosDe r mezcla))
    (intactas : ∀ otra, MismasFormas mezcla otra → ∀ buffers, Intactas buffers otra)
    : Apartadas mezcla := by
  intro before r chunked data after same some'
  by_contra disturbed
  obtain ⟨first, rest, rfl⟩ := List.exists_cons_of_ne_nil some'
  let marked : Evento := .onData chunked ('*' :: List.replicate rest.length ' ')
  let otra := enBlanco before ++ (r, marked) :: enBlanco after
  have formas : MismasFormas mezcla otra := by
    rw [same]
    refine List.rel_append (mismasFormas_enBlanco before) (List.Forall₂.cons ⟨rfl, ?_⟩
      (mismasFormas_enBlanco after))
    simp [marked, Evento.MismaForma]
  let k := (datosDe r before).length
  let blanks : Solicitud → Buffer := fun _ => Vector.replicate maxHttpOutputBuffer ' '
  have room : k < maxHttpOutputBuffer := by
    have whole := (bien r).cabe
    rw [← datosDe, same, datosDe_append, datosDe_cons, if_pos rfl] at whole
    simp only [Evento.datos, List.length_append, List.length_cons] at whole
    omega
  have place : (datosDe r (enBlanco before)).length = k :=
    ((mismasFormas_enBlanco before).datos_length r).symm
  obtain ⟨s, reached, holds⟩ := intactas otra formas blanks otra [] (List.append_nil _).symm
  -- the first byte of the piece is to be found behind the bytes that came before it
  have expected : (s.buffers r)[k]? = some '*' := by
    have own := congrArg (·[k]?) (holds r rfl)
    have here : (datosDe r otra)[k]? = some '*' := by
      rw [datosDe_append, datosDe_cons, if_pos rfl, List.getElem?_append_right (by omega), place,
        Nat.sub_self]
      rfl
    have inside : k < (datosDe r otra).length := (List.getElem?_eq_some_iff.mp here).1
    simp only [here, List.getElem?_take, inside, if_true] at own
    simpa using own
  -- but that cell keeps its blank
  obtain ⟨s1, reached1, later⟩ := Machine.run_split _ reached
  obtain ⟨s2, taken, reached2⟩ := Option.bind_eq_some_iff.mp later
  have blank1 : (s1.buffers r)[k]? = some ' ' := run_enBlanco reached1 (by simp [blanks, room])
  have apart (whole : chunked = false) : s1.outputLen ≠ k := by
    subst whole
    rw [despacho_outputLen reached1, ← (mismasFormas_enBlanco before).contados]
    exact fun counted => disturbed ⟨rfl, (suya_iff bien same some').mpr counted⟩
  have blank2 : (s2.buffers r)[k]? = some ' ' := marca_fuera taken apart blank1
  rw [run_enBlanco reached2 blank2] at expected
  exact absurd (Option.some.inj expected) (by decide)

-----------------------------------------------------------------------------------------
-- Main result
-----------------------------------------------------------------------------------------

/-- Behind the end of an attempt only its last two events come. -/
theorem Intento.tras_fin {chunked : Bool} {trozos : List (List Char)} {antes despues : List Evento}
    {fin evento : Evento}
    (same : (Intento.entrega chunked trozos).eventos = antes ++ fin :: despues)
    (ends : fin.Reinicia) (member : evento ∈ despues)
    : evento ∈ [Evento.onFinish, .disconnected] := by
  rcases List.append_eq_append_iff.mp same with ⟨gap, -, rest⟩ | ⟨gap, front, rest⟩
  · rw [rest]
    simp [member]
  · cases gap with
    | nil =>
        rw [List.nil_append] at rest
        rw [← rest]
        exact List.mem_cons_of_mem _ member
    | cons first gap =>
        obtain ⟨rfl, -⟩ := List.cons.inj rest
        have early : fin ∈ [.onConnected, .headerSent, .onHeader]
            ++ trozos.map (Evento.onData chunked) := by
          rw [front]
          simp
        simp only [List.mem_append, List.mem_cons, List.not_mem_nil, or_false,
          List.mem_map] at early
        rcases early with (rfl | rfl | rfl) | ⟨_, -, rfl⟩ <;> exact ends.elim

/-- A request whose body fits the buffer has well-formed events. -/
theorem Intento.respuesta {i : Intento} (fits : (i.cuerpo.getD []).length ≤ maxHttpOutputBuffer)
    : Respuesta i.eventos := by
  have quiet {eventos : List Evento} (none' : ∀ evento ∈ eventos, evento.datos = [])
      : eventos.flatMap Evento.datos = [] :=
    List.flatMap_eq_nil_iff.mpr none'
  cases i with
  | falla =>
      refine ⟨?_, ?_, ?_⟩
      · rw [quiet (by simp [Intento.eventos, Evento.datos])]
        exact Nat.zero_le _
      · intro antes fin despues same _
        refine quiet fun evento member => ?_
        have inside : evento ∈ Intento.falla.eventos := by simp [same, member]
        rcases List.mem_pair.mp inside with rfl | rfl <;> rfl
      · simp [Intento.eventos]
  | entrega chunked trozos =>
      refine ⟨?_, ?_, ?_⟩
      · have whole : ((Intento.entrega chunked trozos).eventos).flatMap Evento.datos
            = trozos.flatten := by
          simp [Intento.eventos, Evento.datos, List.flatMap_map]
        rw [whole]
        exact fits
      · intro antes fin despues same ends
        refine quiet fun evento member => ?_
        rcases List.mem_pair.mp (Intento.tras_fin same ends member) with rfl | rfl <;> rfl
      · intro c data c' data' member member'
        have own {c : Bool} {data : List Char}
            (member : .onData c data ∈ (Intento.entrega chunked trozos).eventos)
            : chunked = c := by
          simp only [Intento.eventos, List.mem_append, List.mem_cons, List.mem_map,
            Evento.onData.injEq, reduceCtorEq, List.not_mem_nil, false_or, or_false] at member
          obtain ⟨_, -, same, -⟩ := member
          exact same
        exact (own member).symm.trans (own member')

/-- Two requests under way at once receive their own bodies, whatever the bytes and the old
content of the buffers are, exactly if no piece arrives while the other request has raised the
shared length or has reset it in the middle of a body, and no response is chunked.
-/
theorem respuestas_intactas_iff {mezcla : List (Solicitud × Evento)}
    (bien : ∀ r, Respuesta (eventosDe r mezcla))
    : (∀ otra, MismasFormas mezcla otra → ∀ buffers, Intactas buffers otra)
      ↔ Apartadas mezcla := by
  constructor
  · exact apartadas_of_intactas bien
  · intro apartadas otra same buffers
    refine (apartadas.misma same).intactas (fun r => ?_) buffers
    exact (bien r).misma (same.eventosDe r)

/-- A frame is sent while the login is under way; its response comes behind the login's. -/
def seguidas : List (Solicitud × Evento) :=
  [(.login, .onConnected), (.login, .headerSent), (.trama, .onConnected), (.login, .onHeader),
    (.login, .onData false "\x7b\"token\"".toList), (.login, .onData false ":\"t\"\x7d".toList),
    (.trama, .headerSent), (.login, .onFinish), (.login, .disconnected), (.trama, .onHeader),
    (.trama, .onData false "ok".toList), (.trama, .onFinish), (.trama, .disconnected)]

theorem respuestas_intactas_seguidas
    : (∀ otra, MismasFormas seguidas otra → ∀ buffers, Intactas buffers otra)
      ↔ Apartadas seguidas := by
  refine respuestas_intactas_iff fun r => ?_
  cases r with
  | login =>
      exact Intento.respuesta (i := .entrega false ["\x7b\"token\"".toList, ":\"t\"\x7d".toList])
        (by decide)
  | trama => exact Intento.respuesta (i := .entrega false ["ok".toList]) (by decide)

/-- Both responses arrive in one piece before either request is finished. -/
def solapadas : List (Solicitud × Evento) :=
  [(.login, .onConnected), (.login, .headerSent), (.login, .onHeader), (.trama, .onConnected),
    (.trama, .headerSent), (.trama, .onHeader), (.login, .onData false (List.replicate 1500 'a')),
    (.trama, .onData false (List.replicate 600 'b')), (.login, .onFinish),
    (.login, .disconnected), (.trama, .onFinish), (.trama, .disconnected)]

/-- The second body is copied behind the length of the first one, beyond its own buffer. -/
theorem respuestas_solapadas
    : (∀ r, Respuesta (eventosDe r solapadas)) ∧ ∀ buffers, ¬Intactas buffers solapadas := by
  refine ⟨fun r => ?_, fun buffers intactas => ?_⟩
  · cases r with
    | login =>
        refine Intento.respuesta (i := .entrega false [List.replicate 1500 'a']) ?_
        rw [Intento.cuerpo, Option.getD_some, List.flatten_singleton, List.length_replicate]
        decide
    | trama =>
        refine Intento.respuesta (i := .entrega false [List.replicate 600 'b']) ?_
        rw [Intento.cuerpo, Option.getD_some, List.flatten_singleton, List.length_replicate]
        decide
  · obtain ⟨last, reached, -⟩ := intactas solapadas [] (List.append_nil _).symm
    obtain ⟨s, before, later⟩ := @Machine.run_split _ _ _ _ _ (solapadas.take 7)
      (solapadas.drop 7) reached
    have raised : s.outputLen = 1500 := by
      rw [despacho_outputLen before]
      simp only [contados, solapadas, List.take_succ_cons, List.take_zero, List.foldl_cons,
        List.foldl_nil, avanza, Evento.Reinicia, Evento.copiado, reduceIte, List.length_nil,
        List.length_replicate, Nat.zero_add]
    obtain ⟨s', taken, -⟩ := Option.bind_eq_some_iff.mp later
    have far : ¬1500 + (List.replicate 600 'b').length ≤ maxHttpOutputBuffer := by
      rw [List.length_replicate]
      decide
    rw [despacho_copia, raised, copyAt, if_neg far] at taken
    exact absurd taken (Option.some_ne_none _).symm

end EspHttpControl.Client
