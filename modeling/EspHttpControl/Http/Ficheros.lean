import Mathlib.Data.List.TakeDrop
import EspHttpControl.Http.Registros
import EspHttpControl.Http.Rutas
import EspHttpControl.Machines.Runs

/-! The file server on whole transfers.
`download_get_handler` sends a file piece by piece, and `upload_post_handler` stores the pieces
of a body one behind the other and takes the file away again when one of them fails.
-/

namespace EspHttpControl.Http

open CText Machines

/-- `SCRATCH_BUFSIZE` -/
def scratchBufsize : Nat := 8192

/-- `MAX_FILE_SIZE` -/
def maxFileSize : Nat := 200 * 1024

-----------------------------------------------------------------------------------------
-- Downloads
-----------------------------------------------------------------------------------------

/-- What a download meets: whether the file opens, how much the `k`-th `fread` can get, and
whether the `k`-th chunk goes out.
-/
structure Bajada where
  abre : Bool
  lee : Nat → Nat
  sale : Nat → Bool

/-- `fread` into the scratch buffer, in the `k`-th turn. -/
def Bajada.fread (m : Bajada) (k : Nat) (resto : Str) : Str :=
  resto.take (min scratchBufsize (m.lee k))

/-- The loop of `download_get_handler` from the `k`-th turn on: the chunks that go out, and how
the loop ends.
-/
def enviaTrozos (m : Bajada) (k : Nat) (resto : Str) : List Str × Fin :=
  if m.fread k resto = [] then ([], .ok)
  else if m.sale k then
    (enviaTrozos m (k + 1) (resto.drop (m.fread k resto).length)).map (m.fread k resto :: ·) id
  else ([], .fail)
termination_by resto.length
decreasing_by
  rename_i some' _
  have taken : (m.fread k resto).length ≤ resto.length := List.length_take_le' ..
  have moved : 0 < (m.fread k resto).length := List.length_pos_iff.mpr some'
  rw [List.length_drop]
  omega

/-- `download_get_handler` with its buffer; the result has the content type, if one is set. There
is none when the buffer is left.
-/
def downloadGetHandlerEn (m : Bajada) (buffer : Vector Char filePathMax) (d : Device) (uri : Str)
    (directorio : Bool)
    : Option (Option String × Resultado) := do
  let (buffer, filename) ← getPathFromUriEn buffer "/spiffs".toList uri
  match filename with
  | none => return (none, ⟨d, [.error 500 "Filename too long"], .fail⟩)
  | some filename =>
    let name ← textAt buffer filename
    let path ← textAt buffer 0
    -- The character in front of an empty name is the last one of the base path.
    if load buffer (filename + name.length - 1) nul = '/' then
      if directorio then return (none, ⟨d, [.vacia], .ok⟩)
      else return (none, ⟨d, [.error 404 "Directory does not exist"], .fail⟩)
    else
      match d.archivos path with
      | none =>
        if name = "/index.html".toList then return (none, ⟨d, [.redireccion "/"], .ok⟩)
        else if name = "/favicon.ico".toList then return (none, ⟨d, [], .ok⟩)
        else return (none, ⟨d, [.error 404 "File does not exist"], .fail⟩)
      | some contenido =>
        if m.abre then
          let tipo ← setContentTypeFromFile buffer filename
          let (trozos, fin) := enviaTrozos m 0 contenido
          let cola := if fin = .ok then [] else [.error 500 "Failed to send file"]
          return (some tipo, ⟨d, trozos.map .bytes ++ cola, fin⟩)
        else return (none, ⟨d, [.error 500 "Failed to read existing file"], .fail⟩)

/-- Every `fread` gets what the buffer holds, unless the file ends. -/
def Bajada.LeeTodo (m : Bajada) : Prop := ∀ k, scratchBufsize ≤ m.lee k

/-- The number of chunks of a file. -/
def trozosDe (contenido : Str) : Nat := (contenido.length + scratchBufsize - 1) / scratchBufsize

/-- The loop sends the file from its front on in chunks that the buffer holds, and it ends with
an error only at a chunk that does not go out. By induction on the turns.
-/
theorem enviaTrozos_prefijo (m : Bajada) (k : Nat) (resto : Str)
    : (enviaTrozos m k resto).1.flatten <+: resto
      ∧ (∀ trozo ∈ (enviaTrozos m k resto).1, trozo ≠ [] ∧ trozo.length ≤ scratchBufsize)
      ∧ ((enviaTrozos m k resto).2 = .ok
        ∨ (enviaTrozos m k resto).2 = .fail
          ∧ m.sale (k + (enviaTrozos m k resto).1.length) = false) := by
  fun_induction enviaTrozos m k resto with
  | case1 k resto nothing => simp
  | case2 k resto some' sent ih =>
      obtain ⟨prefijo, each, ends⟩ := ih
      simp only [Prod.map_fst, Prod.map_snd, id]
      have front : m.fread k resto <+: resto := List.take_prefix _ _
      refine ⟨?_, ?_, ?_⟩
      · rw [List.flatten_cons]
        have whole := (List.prefix_append_right_inj (m.fread k resto)).mpr prefijo
        rwa [List.prefix_iff_eq_append.mp front] at whole
      · intro trozo member
        rcases List.mem_cons.mp member with rfl | later
        · exact ⟨some', (List.length_take_le ..).trans (Nat.min_le_left ..)⟩
        · exact each trozo later
      · rw [List.length_cons, ← Nat.add_assoc, Nat.add_right_comm]
        exact ends
  | case3 k resto some' lost =>
      exact ⟨List.nil_prefix, by simp, Or.inr ⟨rfl, by simpa using lost⟩⟩

theorem fread_lleno {m : Bajada} (lee : m.LeeTodo) (k : Nat) (resto : Str)
    : m.fread k resto = resto.take scratchBufsize := by
  rw [Bajada.fread, Nat.min_eq_left (lee k)]

theorem trozosDe_drop {resto : Str} (some' : resto ≠ [])
    : trozosDe resto = trozosDe (resto.drop (resto.take scratchBufsize).length) + 1 := by
  have moved := List.length_pos_iff.mpr some'
  rw [trozosDe, trozosDe, List.length_drop, List.length_take, scratchBufsize]
  omega

/-- Without a read error the loop comes to its end exactly when every chunk of the file goes out,
and then the whole file has been sent. By induction on the turns.
-/
theorem enviaTrozos_lleno {m : Bajada} (lee : m.LeeTodo) (k : Nat) (resto : Str)
    : ((enviaTrozos m k resto).2 = .ok ↔ ∀ i < trozosDe resto, m.sale (k + i) = true)
      ∧ ((enviaTrozos m k resto).2 = .ok → (enviaTrozos m k resto).1.flatten = resto) := by
  fun_induction enviaTrozos m k resto with
  | case1 k resto nothing =>
      rw [fread_lleno lee, List.take_eq_nil_iff] at nothing
      obtain rfl := nothing.resolve_left (by decide)
      simp [trozosDe, scratchBufsize]
  | case2 k resto some' sent ih =>
      obtain ⟨ends, whole⟩ := ih
      simp only [Prod.map_fst, Prod.map_snd, id]
      rw [fread_lleno lee] at some' ends whole ⊢
      have left : resto ≠ [] := fun nothing => some' (by rw [nothing, List.take_nil])
      rw [trozosDe_drop left]
      have turns (i : Nat) : k + (i + 1) = k + 1 + i := by omega
      constructor
      · rw [ends]
        constructor
        · intro later i below
          cases i with
          | zero => exact sent
          | succ i => exact turns i ▸ later i (Nat.lt_of_succ_lt_succ below)
        · intro all i below
          exact turns i ▸ all (i + 1) (Nat.succ_lt_succ below)
      · intro ended
        rw [List.flatten_cons, whole ended]
        exact List.prefix_iff_eq_append.mp (List.take_prefix _ _)
  | case3 k resto some' lost =>
      have left : resto ≠ [] := by
        intro nothing
        rw [nothing, Bajada.fread, List.take_nil] at some'
        exact some' rfl
      refine ⟨⟨fun same => Fin.noConfusion same, fun all => ?_⟩, fun same => Fin.noConfusion same⟩
      rw [trozosDe_drop left] at all
      exact absurd (all 0 (Nat.succ_pos _)) lost

/-- The name and the content of the file that a URI asks for. -/
def ficheroDe (d : Device) (uri : Str) : Option (Str × Str) :=
  (getPathFromUri uri).bind fun name =>
    if name.getLast? = some '/' then none
    else (d.archivos ("/spiffs".toList ++ name)).map fun contenido => (name, contenido)

section Handler

variable (m : Bajada) (buffer : Vector Char filePathMax) (d : Device) {uri : Str}
    (directorio : Bool)

/-- Without a file the buffer changes nothing, by the branches in front of the transfer. -/
theorem downloadGetHandlerEn_sin_fichero (free : nul ∉ uri) (none' : ficheroDe d uri = none)
    : downloadGetHandlerEn m buffer d uri directorio
      = some (none, downloadGetHandler d uri directorio) := by
  cases path : getPathFromUri uri with
  | none =>
      simp only [downloadGetHandlerEn, downloadGetHandler, path, getPathFromUriEn_none path buffer,
        bind, Option.bind, pure]
  | some name =>
      obtain ⟨part, room⟩ := nombre_breve path
      have clean : nul ∉ name := fun member => free (part.subset member)
      simp only [downloadGetHandlerEn, downloadGetHandler, path, getPathFromUriEn_some path buffer,
        textAt_overlay clean room, textAt_path base_spiffs buffer room clean,
        load_ultimo base_spiffs buffer room, bind, Option.bind, pure]
      simp only [ficheroDe, path, Option.bind] at none'
      split
      · split <;> rfl
      · next file =>
        rw [if_neg file] at none'
        rw [Option.map_eq_none_iff.mp none']
        dsimp only
        split
        · rfl
        · split <;> rfl

/-- A file that opens is sent with the type of its name. -/
theorem downloadGetHandlerEn_fichero {name contenido : Str} (free : nul ∉ uri)
    (stored : ficheroDe d uri = some (name, contenido))
    : downloadGetHandlerEn m buffer d uri directorio
        = (if m.abre then
            some (some (tipoDe name), ⟨d, (enviaTrozos m 0 contenido).1.map .bytes
              ++ (if (enviaTrozos m 0 contenido).2 = .ok then []
                else [.error 500 "Failed to send file"]), (enviaTrozos m 0 contenido).2⟩)
          else some (none, ⟨d, [.error 500 "Failed to read existing file"], .fail⟩))
      ∧ downloadGetHandler d uri directorio = ⟨d, [.bytes contenido], .ok⟩ := by
  obtain ⟨name', path, stored⟩ := Option.bind_eq_some_iff.mp stored
  obtain ⟨file, stored⟩ := Option.ite_none_left_eq_some.mp stored
  obtain ⟨contenido', held, same⟩ := Option.map_eq_some_iff.mp stored
  obtain ⟨rfl, rfl⟩ := Prod.mk.inj same
  obtain ⟨part, room⟩ := nombre_breve path
  have clean : nul ∉ name' := fun member => free (part.subset member)
  constructor
  · simp only [downloadGetHandlerEn, getPathFromUriEn_some path buffer,
      textAt_overlay clean room, textAt_path base_spiffs buffer room clean,
      load_ultimo base_spiffs buffer room, setContentTypeFromFile_eq base_spiffs buffer room clean,
      bind, Option.bind, pure, if_neg file, held]
  · simp only [downloadGetHandler, path, if_neg file, held]

end Handler

/-- A download in chunks against the download of the file as a whole. Where the URI names no file
both answer the same; where it does, the chunks together are the front of the file, each of them
fits the scratch buffer, the handler fails only at a chunk that does not go out, and without read
errors it ends well exactly when all chunks go out, with the whole file sent.
-/
theorem descarga_entrega (m : Bajada) (buffer : Vector Char filePathMax) (d : Device) {uri : Str}
    (directorio : Bool) (free : nul ∉ uri)
    : ∃ tipo r, downloadGetHandlerEn m buffer d uri directorio = some (tipo, r)
      ∧ r.dev = d
      ∧ (ficheroDe d uri = none → tipo = none ∧ r = downloadGetHandler d uri directorio)
      ∧ ∀ name contenido, ficheroDe d uri = some (name, contenido)
        → downloadGetHandler d uri directorio = ⟨d, [.bytes contenido], .ok⟩
          ∧ (m.abre = true
            → tipo = some (tipoDe name)
              ∧ ∃ trozos : List Str,
                trozos.flatten <+: contenido
                ∧ (∀ trozo ∈ trozos, trozo ≠ [] ∧ trozo.length ≤ scratchBufsize)
                ∧ (r.fin = .ok ∧ r.enviados = trozos.map .bytes
                  ∨ r.fin = .fail ∧ m.sale trozos.length = false
                    ∧ r.enviados = trozos.map .bytes ++ [.error 500 "Failed to send file"])
                ∧ (m.LeeTodo
                  → (r.fin = .ok ↔ ∀ i < trozosDe contenido, m.sale i = true)
                    ∧ (r.fin = .ok → trozos.flatten = contenido))) := by
  cases asked : ficheroDe d uri with
  | none =>
      refine ⟨_, _, downloadGetHandlerEn_sin_fichero m buffer d directorio free asked, ?_, ?_, ?_⟩
      · fun_cases downloadGetHandler
        all_goals rfl
      · exact fun _ => ⟨rfl, rfl⟩
      · exact fun _ _ same => absurd same.symm (Option.some_ne_none _)
  | some stored =>
      obtain ⟨name, contenido⟩ := stored
      obtain ⟨chunked, plain⟩ := downloadGetHandlerEn_fichero m buffer d directorio free asked
      by_cases opens : m.abre = true
      · rw [if_pos opens] at chunked
        refine ⟨_, _, chunked, rfl, fun nothing => absurd nothing (Option.some_ne_none _), ?_⟩
        intro name' contenido' same
        obtain ⟨rfl, rfl⟩ := Prod.mk.inj (Option.some.inj same)
        obtain ⟨prefijo, each, ends⟩ := enviaTrozos_prefijo m 0 contenido
        refine ⟨plain, fun _ => ⟨rfl, _, prefijo, each, ?_, fun lee => ?_⟩⟩
        · rcases ends with done | ⟨failed, lost⟩
          · exact Or.inl ⟨done, by rw [if_pos done, List.append_nil]⟩
          · rw [Nat.zero_add] at lost
            refine Or.inr ⟨failed, lost, ?_⟩
            rw [if_neg (by rw [failed]; decide)]
        · have complete := enviaTrozos_lleno lee 0 contenido
          simp only [Nat.zero_add] at complete
          exact complete
      · rw [if_neg opens] at chunked
        refine ⟨_, _, chunked, rfl, fun nothing => absurd nothing (Option.some_ne_none _), ?_⟩
        intro name' contenido' same
        obtain ⟨rfl, rfl⟩ := Prod.mk.inj (Option.some.inj same)
        exact ⟨plain, fun opened => absurd opened opens⟩

/-- A medium without errors. -/
def Bajada.sana : Bajada := ⟨true, fun _ => scratchBufsize, fun _ => true⟩

/-- Witness: a short file over a sound connection. -/
theorem descarga_entrega_pagina
    : ∃ r, downloadGetHandlerEn .sana (Vector.replicate filePathMax '#')
          (Device.arranque .empty (fun path =>
            if path = "/spiffs/a.html".toList then some "hola".toList else none)
            (Vector.replicate 6 0)) "/a.html".toList false
        = some (some "text/html", r) ∧ r.fin = .ok := by
  have clean : nul ∉ "/a.html".toList := by decide
  obtain ⟨tipo, r, sent, -, -, stored⟩ := descarga_entrega .sana (Vector.replicate filePathMax '#')
    (Device.arranque .empty (fun path =>
      if path = "/spiffs/a.html".toList then some "hola".toList else none)
      (Vector.replicate 6 0)) false clean
  obtain ⟨-, opened⟩ := stored "/a.html".toList "hola".toList (by decide)
  obtain ⟨rfl, _, -, -, -, complete⟩ := opened rfl
  have type : tipoDe "/a.html".toList = "text/html" := by decide
  rw [type] at sent
  exact ⟨r, sent, (complete fun _ => Nat.le_refl _).1.mpr fun _ _ => rfl⟩

-----------------------------------------------------------------------------------------
-- Uploads
-----------------------------------------------------------------------------------------

/-- `httpd_req_recv` for at most `len` bytes; what is left of a piece comes with the next call. -/
def httpdReqRecv (len : Nat) : List Recepcion → Option (Recepcion × List Recepcion)
  | [] => none
  | .pieza datos resto :: rest =>
    if datos.length ≤ len then some (.pieza datos resto, rest)
    else some (.pieza (datos.take len) [], .pieza (datos.drop len) resto :: rest)
  | recepcion :: rest => some (recepcion, rest)

/-- The bytes of a body in front of the first error or end of the connection. -/
def llegado : List Recepcion → Str
  | .timeout :: rest => llegado rest
  | .pieza (byte :: datos) _ :: rest => byte :: datos ++ llegado rest
  | _ => []

/-- A timeout takes nothing of the body. -/
theorem httpdReqRecv_timeout {len : Nat} {recepciones rest : List Recepcion}
    (received : httpdReqRecv len recepciones = some (.timeout, rest))
    : recepciones = .timeout :: rest := by
  cases recepciones with
  | nil => cases received
  | cons recepcion later =>
      cases recepcion with
      | timeout =>
          obtain ⟨-, rfl⟩ := Prod.mk.inj (Option.some.inj received)
          rfl
      | error => cases (Prod.mk.inj (Option.some.inj received)).1
      | pieza datos resto =>
          rw [httpdReqRecv] at received
          split at received <;> cases (Prod.mk.inj (Option.some.inj received)).1

/-- Nothing has arrived in front of an error. -/
theorem httpdReqRecv_error {len : Nat} {recepciones rest : List Recepcion}
    (received : httpdReqRecv len recepciones = some (.error, rest))
    : llegado recepciones = [] := by
  cases recepciones with
  | nil => cases received
  | cons recepcion later =>
      cases recepcion with
      | timeout => cases (Prod.mk.inj (Option.some.inj received)).1
      | error => rfl
      | pieza datos resto =>
          rw [httpdReqRecv] at received
          split at received <;> cases (Prod.mk.inj (Option.some.inj received)).1

/-- A piece is the front of what has arrived, as long as asked for at most. -/
theorem httpdReqRecv_pieza {len : Nat} {recepciones rest : List Recepcion}
    {datos resto : List Char} (room : 0 < len)
    (received : httpdReqRecv len recepciones = some (.pieza datos resto, rest))
    : datos.length ≤ len
      ∧ (datos = [] → llegado recepciones = [])
      ∧ (datos ≠ [] → llegado recepciones = datos ++ llegado rest) := by
  cases recepciones with
  | nil => cases received
  | cons recepcion later =>
      cases recepcion with
      | timeout => cases (Prod.mk.inj (Option.some.inj received)).1
      | error => cases (Prod.mk.inj (Option.some.inj received)).1
      | pieza todos otros =>
          rw [httpdReqRecv] at received
          split at received
          · next whole =>
            obtain ⟨first, rfl⟩ := Prod.mk.inj (Option.some.inj received)
            obtain ⟨rfl, rfl⟩ := Recepcion.pieza.inj first
            cases todos with
            | nil => exact ⟨whole, fun _ => rfl, fun some' => absurd rfl some'⟩
            | cons byte todos => exact ⟨whole, by simp, fun _ => rfl⟩
          · next long =>
            obtain ⟨first, rfl⟩ := Prod.mk.inj (Option.some.inj received)
            obtain ⟨rfl, -⟩ := Recepcion.pieza.inj first
            have split' : todos.take len ≠ [] := by
              rw [Ne, List.take_eq_nil_iff]
              rintro (zero | rfl)
              · omega
              · exact long (Nat.zero_le _)
            have left : todos.drop len ≠ [] := by
              rw [Ne, List.drop_eq_nil_iff]
              omega
            refine ⟨List.length_take_le .., fun nothing => absurd nothing split', fun _ => ?_⟩
            obtain ⟨byte, faltan, same⟩ := List.exists_cons_of_ne_nil left
            have some' : todos ≠ [] := fun nothing => left (by rw [nothing, List.drop_nil])
            obtain ⟨primero, otros', all⟩ := List.exists_cons_of_ne_nil some'
            rw [same, llegado, ← same, ← List.append_assoc, List.take_append_drop, all, llegado]

/-- An upload and what it meets: whether the file can be created, whether the `k`-th `fwrite` takes
its piece, and how many bytes are on the card while the stream holds the others back: `vuelca n`
when `n` bytes have been written, and `cierra` behind the last flush, which `fclose` makes.
-/
structure Subida where
  uri : Str
  contentLen : Nat
  recepciones : List Recepcion
  abre : Bool
  escribe : Nat → Bool
  vuelca : Nat → Nat
  cierra : Nat

/-- How the loop of `upload_post_handler` ends. -/
inductive Termino
  | entera | recepcion | escritura | espera
deriving DecidableEq, Repr

/-- The loop of `upload_post_handler`, on what has been written to the stream so far. -/
def recibeFichero (escribe : Nat → Bool) (remaining k : Nat) (recepciones : List Recepcion)
    (fichero : Str)
    : Termino × Str :=
  if remaining = 0 then (.entera, fichero)
  else
    match _ : httpdReqRecv (min remaining scratchBufsize) recepciones with
    | none => (.espera, fichero)
    | some (.timeout, rest) => recibeFichero escribe remaining k rest fichero
    | some (.error, _) => (.recepcion, fichero)
    | some (.pieza datos _, rest) =>
      if datos = [] then (.recepcion, fichero)
      else if escribe k then
        recibeFichero escribe (remaining - datos.length) (k + 1) rest (fichero ++ datos)
      else (.escritura, fichero)
termination_by (remaining, recepciones.length)
decreasing_by
  · rename_i received
    rw [httpdReqRecv_timeout received]
    exact Prod.Lex.right _ (Nat.lt_succ_self _)
  · rename_i some' _
    have moved := List.length_pos_iff.mpr some'
    exact Prod.Lex.left _ _ (by omega)

/-- The card with a file, or without it. -/
def Device.conArchivo (d : Device) (path : Str) (contenido : Option Str) : Device :=
  { d with archivos := Function.update d.archivos path contenido }

/-- The ends of `upload_post_handler` once the file is open. The result of `fclose` is not looked
at, so that a body whose last bytes do not reach the card is answered as a whole one.
-/
def cierraFichero (s : Subida) (d : Device) (filepath : Str) : Termino × Str → Resultado
  | (.entera, fichero) =>
    ⟨d.conArchivo filepath (some (fichero.take s.cierra)),
      [.redireccion "/", .bytes "File uploaded successfully".toList], .ok⟩
  | (.recepcion, _) =>
    ⟨d.conArchivo filepath none, [.error 500 "Failed to receive file"], .fail⟩
  | (.escritura, _) =>
    ⟨d.conArchivo filepath none, [.error 500 "Failed to write file to storage"], .fail⟩
  | (.espera, fichero) =>
    ⟨d.conArchivo filepath (some (fichero.take (s.vuelca fichero.length))), [], .espera⟩

/-- `upload_post_handler` -/
def uploadPostHandler (s : Subida) (d : Device) : Resultado :=
  match getPathFromUri (s.uri.drop "/upload".length) with
  | none => ⟨d, [.error 500 "Filename too long"], .fail⟩
  | some name =>
    let filepath := "/spiffs".toList ++ name
    if name.getLast? = some '/' then ⟨d, [.error 500 "Invalid filename"], .fail⟩
    else if (d.archivos filepath).isSome then ⟨d, [.error 400 "File already exists"], .fail⟩
    else if s.contentLen > maxFileSize then
      ⟨d, [.error 400 "File size must be less than 200KB!"], .fail⟩
    else if s.abre then
      cierraFichero s d filepath (recibeFichero s.escribe s.contentLen 0 s.recepciones [])
    else ⟨d, [.error 500 "Failed to create file"], .fail⟩

/-- What the end of the loop says about the bytes that arrive and about the file. -/
def Subido (escribe : Nat → Bool) (remaining : Nat) (llega fichero : Str)
    : Termino × Str → Prop
  | (.entera, final) => remaining ≤ llega.length ∧ final = fichero ++ llega.take remaining
  | (.recepcion, _) => llega.length < remaining
  | (.escritura, _) => ∃ k, escribe k = false
  | (.espera, final) => llega.length < remaining ∧ final = fichero ++ llega

theorem Subido.pieza {escribe : Nat → Bool} {remaining : Nat} {datos llega fichero : Str}
    {r : Termino × Str} (small : datos.length ≤ remaining)
    (later : Subido escribe (remaining - datos.length) llega (fichero ++ datos) r)
    : Subido escribe remaining (datos ++ llega) fichero r := by
  obtain ⟨termino, final⟩ := r
  cases termino with
  | entera =>
      obtain ⟨enough, rfl⟩ := later
      refine ⟨by rw [List.length_append]; omega, ?_⟩
      rw [List.take_append, List.take_of_length_le small, List.append_assoc]
  | recepcion =>
      have short : llega.length < remaining - datos.length := later
      exact (List.length_append ▸ by omega : (datos ++ llega).length < remaining)
  | escritura => exact later
  | espera =>
      obtain ⟨short, rfl⟩ := later
      exact ⟨by rw [List.length_append]; omega, List.append_assoc ..⟩

/-- By induction on the turns of the loop. -/
theorem recibeFichero_subido (escribe : Nat → Bool) (remaining k : Nat)
    (recepciones : List Recepcion) (fichero : Str)
    : Subido escribe remaining (llegado recepciones) fichero
        (recibeFichero escribe remaining k recepciones fichero) := by
  fun_induction recibeFichero escribe remaining k recepciones fichero with
  | case1 k recepciones fichero => exact ⟨Nat.zero_le _, by simp⟩
  | case2 remaining k recepciones fichero some' nothing =>
      cases recepciones with
      | nil => exact ⟨Nat.pos_of_ne_zero some', by simp [llegado]⟩
      | cons recepcion rest =>
          cases recepcion with
          | timeout => cases nothing
          | error => cases nothing
          | pieza datos resto =>
              rw [httpdReqRecv] at nothing
              split at nothing <;> cases nothing
  | case3 remaining k recepciones fichero some' rest received ih =>
      rw [httpdReqRecv_timeout received]
      exact ih
  | case4 remaining k recepciones fichero some' rest received =>
      have nothing := httpdReqRecv_error received
      exact (nothing ▸ Nat.pos_of_ne_zero some' : (llegado recepciones).length < remaining)
  | case5 remaining k recepciones fichero some' resto rest received =>
      have room : 0 < min remaining scratchBufsize :=
        Nat.lt_min.mpr ⟨Nat.pos_of_ne_zero some', by decide⟩
      have nothing := (httpdReqRecv_pieza room received).2.1 rfl
      exact (nothing ▸ Nat.pos_of_ne_zero some' : (llegado recepciones).length < remaining)
  | case6 remaining k recepciones fichero some' datos resto rest received ne written ih =>
      have room : 0 < min remaining scratchBufsize :=
        Nat.lt_min.mpr ⟨Nat.pos_of_ne_zero some', by decide⟩
      obtain ⟨small, -, front⟩ := httpdReqRecv_pieza room received
      rw [front ne]
      exact ih.pieza (small.trans (Nat.min_le_left ..))
  | case7 remaining k recepciones fichero some' datos resto rest received ne lost =>
      exact ⟨k, Bool.eq_false_iff.mpr lost⟩

/-- The file server accepts the name and the length of an upload. -/
structure Cabe (s : Subida) (d : Device) (name : Str) : Prop where
  path : getPathFromUri (s.uri.drop "/upload".length) = some name
  fichero : name.getLast? ≠ some '/'
  nuevo : d.archivos ("/spiffs".toList ++ name) = none
  cabe : s.contentLen ≤ maxFileSize

/-- Taking away the file that has just been created leaves the card as it was. -/
theorem conArchivo_none {d : Device} {path : Str} (nuevo : d.archivos path = none)
    : d.conArchivo path none = d := by
  have same : Function.update d.archivos path none = d.archivos :=
    Function.update_eq_self_iff.mpr nuevo.symm
  rw [Device.conArchivo, same]

/-- An upload is rejected without a trace, or its body is received; by the branches in front of the
loop.
-/
theorem uploadPostHandler_cases (s : Subida) (d : Device)
    : (¬((∃ name, Cabe s d name) ∧ s.abre = true)
        ∧ (uploadPostHandler s d).fin = .fail ∧ (uploadPostHandler s d).dev = d)
      ∨ ∃ name, Cabe s d name ∧ s.abre = true
        ∧ uploadPostHandler s d = cierraFichero s d ("/spiffs".toList ++ name)
            (recibeFichero s.escribe s.contentLen 0 s.recepciones []) := by
  simp only [uploadPostHandler]
  cases path : getPathFromUri (s.uri.drop "/upload".length) with
  | none =>
      refine Or.inl ⟨?_, rfl, rfl⟩
      rintro ⟨⟨name, admite⟩, -⟩
      exact absurd (path.symm.trans admite.path) (by simp)
  | some name =>
      have unique {other : Str} (admite : Cabe s d other) : other = name :=
        Option.some.inj (admite.path.symm.trans path)
      dsimp only
      split
      · next directory =>
        refine Or.inl ⟨?_, rfl, rfl⟩
        rintro ⟨⟨other, admite⟩, -⟩
        exact admite.fichero (unique admite ▸ directory)
      · next file =>
        split
        · next stored =>
          refine Or.inl ⟨?_, rfl, rfl⟩
          rintro ⟨⟨other, admite⟩, -⟩
          rw [← unique admite, admite.nuevo] at stored
          cases stored
        · next new =>
          split
          · next large =>
            refine Or.inl ⟨?_, rfl, rfl⟩
            rintro ⟨⟨other, admite⟩, -⟩
            exact absurd admite.cabe (Nat.not_le.mpr large)
          · next small =>
            split
            · next opens =>
              exact Or.inr ⟨name, ⟨path, file, Option.not_isSome_iff_eq_none.mp new,
                Nat.not_lt.mp small⟩, opens, rfl⟩
            · next closed =>
              exact Or.inl ⟨fun both => closed both.2, rfl, rfl⟩

/-- An upload that ends well has received its whole body, and its last flush decides how much of it
is stored under the new name.
-/
theorem uploadPostHandler_ok {s : Subida} {d : Device}
    (done : (uploadPostHandler s d).fin = .ok)
    : ∃ name, Cabe s d name
      ∧ s.contentLen ≤ (llegado s.recepciones).length
      ∧ (uploadPostHandler s d).dev
        = d.conArchivo ("/spiffs".toList ++ name)
            (some (((llegado s.recepciones).take s.contentLen).take s.cierra)) := by
  rcases uploadPostHandler_cases s d with ⟨-, failed, -⟩ | ⟨name, admite, -, same⟩
  · rw [failed] at done
    cases done
  · have body := recibeFichero_subido s.escribe s.contentLen 0 s.recepciones []
    rw [same] at done ⊢
    generalize recibeFichero s.escribe s.contentLen 0 s.recepciones [] = r at body done ⊢
    obtain ⟨termino, final⟩ := r
    cases termino with
    | entera =>
        obtain ⟨enough, rfl⟩ := body
        exact ⟨name, admite, enough, rfl⟩
    | recepcion | escritura | espera => cases done

/-- Without write errors the body alone decides about an accepted upload. -/
theorem uploadPostHandler_ok_iff {s : Subida} {d : Device} (stored : ∀ k, s.escribe k = true)
    : (uploadPostHandler s d).fin = .ok
      ↔ (∃ name, Cabe s d name) ∧ s.abre = true
        ∧ s.contentLen ≤ (llegado s.recepciones).length := by
  rcases uploadPostHandler_cases s d with ⟨rejected, failed, -⟩ | ⟨name, admite, opens, same⟩
  · rw [failed]
    refine ⟨fun done => Fin.noConfusion done, ?_⟩
    rintro ⟨known, opens, -⟩
    exact absurd ⟨known, opens⟩ rejected
  · rw [same]
    have body := recibeFichero_subido s.escribe s.contentLen 0 s.recepciones []
    generalize recibeFichero s.escribe s.contentLen 0 s.recepciones [] = r at body ⊢
    obtain ⟨termino, final⟩ := r
    cases termino with
    | entera => exact ⟨fun _ => ⟨⟨name, admite⟩, opens, body.1⟩, fun _ => rfl⟩
    | recepcion =>
        refine ⟨fun done => Fin.noConfusion done, ?_⟩
        rintro ⟨-, -, enough⟩
        exact absurd enough (Nat.not_le.mpr body)
    | escritura =>
        obtain ⟨k, lost⟩ := body
        rw [stored k] at lost
        cases lost
    | espera =>
        refine ⟨fun done => Fin.noConfusion done, ?_⟩
        rintro ⟨-, -, enough⟩
        exact absurd enough (Nat.not_le.mpr body.1)

/-- An upload is all or nothing, up to its last flush. It ends well only if its name is new and its
whole body arrives, and then the front of that body which the last flush leaves on the card is in
the new file: exactly the body if and only if the flush gets to its end. It fails without a trace
on the card; and while it waits, the new file holds what has arrived, up to the bytes that the
stream holds back. Without write errors it ends well exactly when it is accepted, the file can be
created and the whole body arrives.
-/
theorem subida_todo_o_nada (s : Subida) (d : Device)
    : ((uploadPostHandler s d).fin = .ok
        → ∃ name, Cabe s d name
          ∧ s.contentLen ≤ (llegado s.recepciones).length
          ∧ (uploadPostHandler s d).dev
            = d.conArchivo ("/spiffs".toList ++ name)
                (some (((llegado s.recepciones).take s.contentLen).take s.cierra))
          ∧ (((llegado s.recepciones).take s.contentLen).take s.cierra
              = (llegado s.recepciones).take s.contentLen ↔ s.contentLen ≤ s.cierra))
      ∧ ((uploadPostHandler s d).fin = .fail → (uploadPostHandler s d).dev = d)
      ∧ ((uploadPostHandler s d).fin = .espera
        → ∃ name, Cabe s d name
          ∧ (llegado s.recepciones).length < s.contentLen
          ∧ (uploadPostHandler s d).dev
            = d.conArchivo ("/spiffs".toList ++ name)
                (some ((llegado s.recepciones).take (s.vuelca (llegado s.recepciones).length))))
      ∧ ((uploadPostHandler s d).fin = .ok ∨ (uploadPostHandler s d).fin = .fail
        ∨ (uploadPostHandler s d).fin = .espera)
      ∧ ((∀ k, s.escribe k = true)
        → ((uploadPostHandler s d).fin = .ok
          ↔ (∃ name, Cabe s d name) ∧ s.abre = true
            ∧ s.contentLen ≤ (llegado s.recepciones).length)) := by
  refine ⟨fun done => ?_, ?_, ?_, ?_, uploadPostHandler_ok_iff⟩
  · obtain ⟨name, admite, enough, stored⟩ := uploadPostHandler_ok done
    refine ⟨name, admite, enough, stored, ?_⟩
    rw [List.take_eq_self_iff, List.length_take, Nat.min_eq_left enough]
  all_goals rcases uploadPostHandler_cases s d with ⟨-, failed, kept⟩ | ⟨name, admite, -, same⟩
  · exact fun _ => kept
  · have clean := conArchivo_none admite.nuevo
    rw [same]
    generalize recibeFichero s.escribe s.contentLen 0 s.recepciones [] = r
    obtain ⟨termino, final⟩ := r
    cases termino with
    | recepcion | escritura => exact fun _ => clean
    | entera | espera => exact fun failed => Fin.noConfusion failed
  · rw [failed]
    exact fun waits => Fin.noConfusion waits
  · have body := recibeFichero_subido s.escribe s.contentLen 0 s.recepciones []
    rw [same]
    generalize recibeFichero s.escribe s.contentLen 0 s.recepciones [] = r at body ⊢
    obtain ⟨termino, final⟩ := r
    cases termino with
    | espera =>
        obtain ⟨short, rfl⟩ := body
        exact fun _ => ⟨name, admite, short, rfl⟩
    | entera | recepcion | escritura => exact fun waits => Fin.noConfusion waits
  · exact Or.inr (Or.inl failed)
  · rw [same]
    generalize recibeFichero s.escribe s.contentLen 0 s.recepciones [] = r
    obtain ⟨termino, final⟩ := r
    cases termino with
    | entera => exact Or.inl rfl
    | recepcion | escritura => exact Or.inr (Or.inl rfl)
    | espera => exact Or.inr (Or.inr rfl)

-----------------------------------------------------------------------------------------
-- Uploads and downloads among the other requests
-----------------------------------------------------------------------------------------

/-- A request for the server: an upload, or one of the endpoints that it registers. -/
inductive Acceso
  | sube (s : Subida)
  | pide (p : Peticion)

/-- The server handles one request at a time, and an upload that waits for its body keeps it. -/
def ficheros (parse : Str → Option Json) : Machine Device Acceso where
  step d
  | .sube s =>
    if (uploadPostHandler s d).fin = .espera then none else some (uploadPostHandler s d).dev
  | .pide p => some (servir parse d p).dev

/-- A request changes no file but the log. -/
theorem servir_archivos {path : Str} (other : path ≠ logTxt) (parse : Str → Option Json)
    (d : Device) (p : Peticion)
    : (servir parse d p).dev.archivos path = d.archivos path :=
  @servir_regla (fun d' => d'.archivos path = d.archivos path) (fun _ _ _ kept => kept)
    (fun _ kept => (Function.update_of_ne other _ _).trans kept) (fun _ _ kept => kept) parse d rfl p

/-- An upload changes no file that is there, by how it ends. -/
theorem uploadPostHandler_archivos {d : Device} {path contenido : Str} (s : Subida)
    (stored : d.archivos path = some contenido)
    : (uploadPostHandler s d).dev.archivos path = some contenido := by
  rcases uploadPostHandler_cases s d with ⟨-, -, kept⟩ | ⟨name, admite, -, same⟩
  · rw [kept]
    exact stored
  · have other : path ≠ "/spiffs".toList ++ name := by
      rintro rfl
      rw [admite.nuevo] at stored
      cases stored
    rw [same]
    rcases recibeFichero s.escribe s.contentLen 0 s.recepciones [] with ⟨_ | _ | _ | _, final⟩
    all_goals exact (Function.update_of_ne other _ _).trans stored

/-- Whatever is requested afterwards, a file other than the log keeps its content. Witness: the
run rule, with the two lemmas about one request.
-/
theorem fichero_permanece {parse : Str → Option Json} {d d' : Device} {accesos : List Acceso}
    {path contenido : Str} (other : path ≠ logTxt) (stored : d.archivos path = some contenido)
    (reached : (ficheros parse).run d accesos = some d')
    : d'.archivos path = some contenido := by
  have preserved (d : Device) (acceso : Acceso) (d' : Device) (kept : d.archivos path = some contenido)
      (taken : (ficheros parse).step d acceso = some d')
      : d'.archivos path = some contenido := by
    cases acceso with
    | sube s =>
        obtain ⟨-, same⟩ := Option.ite_none_left_eq_some.mp taken
        obtain rfl := Option.some.inj same
        exact uploadPostHandler_archivos s kept
    | pide p =>
        obtain rfl := Option.some.inj taken
        exact (servir_archivos other parse d p).trans kept
  exact Machine.invariant_run preserved stored reached

/-- The bytes of an answer. -/
def cuerpo (enviados : List Respuesta) : List Char :=
  enviados.flatMap fun
    | .bytes datos => datos
    | _ => []

theorem cuerpo_bytes (trozos : List Str) : cuerpo (trozos.map .bytes) = trozos.flatten := by
  induction trozos with
  | nil => rfl
  | cons trozo rest ih => exact congrArg (trozo ++ ·) ih

/-- A file that has been uploaded, and whose last flush has got to its end, can be downloaded under
its name, unchanged, whatever is requested in between: later uploads, whole or not, and requests to
any other endpoint. The name is not that of the log, which a request clears.
-/
theorem subida_descarga {parse : Str → Option Json} {s : Subida} {d d' : Device}
    {accesos : List Acceso} (free : nul ∉ s.uri)
    (other : getPathFromUri (s.uri.drop "/upload".length) ≠ some "/log.txt".toList)
    (done : (uploadPostHandler s d).fin = .ok) (volcado : s.contentLen ≤ s.cierra)
    (reached : (ficheros parse).run (uploadPostHandler s d).dev accesos = some d')
    (m : Bajada) (opens : m.abre = true) (lee : m.LeeTodo) (sale : ∀ k, m.sale k = true)
    (buffer : Vector Char filePathMax) (directorio : Bool)
    : ∃ name r, getPathFromUri (s.uri.drop "/upload".length) = some name
      ∧ downloadGetHandlerEn m buffer d' (s.uri.drop "/upload".length) directorio
        = some (some (tipoDe name), r)
      ∧ r.fin = .ok
      ∧ cuerpo r.enviados = (llegado s.recepciones).take s.contentLen := by
  obtain ⟨name, admite, -, written⟩ := uploadPostHandler_ok done
  rw [List.take_of_length_le ((List.length_take_le ..).trans volcado)] at written
  have held : (uploadPostHandler s d).dev.archivos ("/spiffs".toList ++ name)
      = some ((llegado s.recepciones).take s.contentLen) := by
    rw [written]
    exact Function.update_self ..
  have log : "/spiffs".toList ++ name ≠ logTxt := by
    intro same
    have whole : "/spiffs".toList ++ name = "/spiffs".toList ++ "/log.txt".toList := same
    exact other (List.append_cancel_left whole ▸ admite.path)
  have kept := fichero_permanece log held reached
  have asked : ficheroDe d' (s.uri.drop "/upload".length)
      = some (name, (llegado s.recepciones).take s.contentLen) := by
    rw [ficheroDe, admite.path, Option.bind_some, if_neg admite.fichero, kept, Option.map_some]
  have clean : nul ∉ s.uri.drop "/upload".length := fun member =>
    free (List.mem_of_mem_drop member)
  have chunked := (downloadGetHandlerEn_fichero m buffer d' directorio clean asked).1
  obtain ⟨ends, whole⟩ := enviaTrozos_lleno lee 0 ((llegado s.recepciones).take s.contentLen)
  have ended := ends.mpr fun i _ => sale (0 + i)
  rw [if_pos opens, if_pos ended, List.append_nil] at chunked
  refine ⟨name, _, admite.path, chunked, ended, ?_⟩
  exact (cuerpo_bytes _).trans (whole ended)

/-- A body of four bytes that comes in two pieces and is flushed as a whole at the end. -/
def subidaPagina : Subida :=
  ⟨"/upload/a.html".toList, 4,
    [.timeout, .pieza "ho".toList [], .pieza "la".toList []], true, fun _ => true, fun _ => 0, 4⟩

/-- Witness: a page comes back as it was sent, after a request to another endpoint. -/
theorem subida_descarga_pagina
    : ∃ d' name r,
        (ficheros (JsonText.parse atoi)).run (uploadPostHandler subidaPagina .nueva).dev
            [.pide .version]
          = some d'
        ∧ downloadGetHandlerEn .sana (Vector.replicate filePathMax '#') d' "/a.html".toList false
          = some (some (tipoDe name), r)
        ∧ cuerpo r.enviados = "hola".toList := by
  have done : (uploadPostHandler subidaPagina .nueva).fin = .ok := by
    refine (uploadPostHandler_ok_iff fun _ => rfl).mpr ⟨⟨"/a.html".toList, ?_, ?_, ?_, ?_⟩, rfl, ?_⟩
      <;> decide
  have reached : (ficheros (JsonText.parse atoi)).run (uploadPostHandler subidaPagina .nueva).dev
      [.pide .version] = some _ := rfl
  obtain ⟨name, r, -, sent, -, body⟩ := subida_descarga (by decide) (by decide) done (by decide) reached
    .sana
    rfl (fun _ => Nat.le_refl _) (fun _ => rfl) (Vector.replicate filePathMax '#') false
  exact ⟨_, name, r, rfl, sent, body⟩

end EspHttpControl.Http
