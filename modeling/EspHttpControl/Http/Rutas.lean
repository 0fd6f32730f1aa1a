import EspHttpControl.CText.Buffers
import EspHttpControl.Http.Handlers

/-! The path of a file in the buffer of the file server.
`get_path_from_uri` puts the base path and the path of the request one behind the other, and
`set_content_type_from_file` looks at the end of the name by counting back from its length.
-/

namespace EspHttpControl.Http

open CText

-----------------------------------------------------------------------------------------
-- The functions on the buffer
-----------------------------------------------------------------------------------------

/-- The length that `get_path_from_uri` takes of the URI: up to the query and up to the fragment. -/
def pathlen (uri : Str) : Nat :=
  let pathlen := uri.length
  let pathlen :=
    match uri.idxOf? '?' with
    | some quest => min pathlen quest
    | none => pathlen
  match uri.idxOf? '#' with
  | some hash => min pathlen hash
  | none => pathlen

/-- `get_path_from_uri`: the buffer afterwards, and where the name starts in it unless the
function returns NULL. There is no result when a copy leaves the buffer.
-/
def getPathFromUriEn {n : Nat} (dest : Vector Char n) (basePath uri : Str)
    : Option (Vector Char n × Option Nat) :=
  if basePath.length + pathlen uri + 1 > n then some (dest, none)
  else do
    let dest ← strcpyAt dest 0 basePath
    let dest ← strlcpyAt dest basePath.length uri (pathlen uri + 1)
    return (dest, some basePath.length)

/-- `IS_FILE_EXT`; the extension may be longer than the name, and then the comparison starts in
front of it.
-/
def isFileExt {n : Nat} (filepath : Vector Char n) (filename : Nat) (ext : Str)
    : Option Bool := do
  let name ← textAt filepath filename
  if filename + name.length < ext.length then none
  else
    let final ← textAt filepath (filename + name.length - ext.length)
    return Json.sameName final ext

/-- The extensions in the order of the comparisons. -/
def contentTypes : List (String × String) :=
  [(".pdf", "application/pdf"), (".html", "text/html"), (".jpeg", "image/jpeg"),
    (".ico", "image/x-icon")]

/-- The branches of `set_content_type_from_file`, one after another. -/
def primerTipo {n : Nat} (filepath : Vector Char n) (filename : Nat)
    : List (String × String) → Option String
  | [] => some "text/plain"
  | (ext, tipo) :: rest => do
    if ← isFileExt filepath filename ext.toList then return tipo
    else primerTipo filepath filename rest

/-- `set_content_type_from_file`; there is no result when it reads outside the buffer. -/
def setContentTypeFromFile {n : Nat} (filepath : Vector Char n) (filename : Nat)
    : Option String :=
  primerTipo filepath filename contentTypes

-----------------------------------------------------------------------------------------
-- What they are for
-----------------------------------------------------------------------------------------

/-- The path of a URI, in front of its query and its fragment. -/
def pathDe (uri : Str) : Str := uri.takeWhile fun c => c ≠ '?' ∧ c ≠ '#'

/-- A name ends in an extension, without regard to case. -/
def TerminaEn (name ext : Str) : Prop :=
  ∃ front final, name = front ++ final ∧ Json.sameName final ext = true

theorem length_sameName {left right : Str} (same : Json.sameName left right = true)
    : left.length = right.length := by
  simpa using congrArg List.length (eq_of_beq same)

/-- Only the last characters, as many as the extension has, can be the same. -/
theorem terminaEn_iff (name ext : Str)
    : TerminaEn name ext ↔ Json.sameName (name.drop (name.length - ext.length)) ext = true := by
  constructor
  · rintro ⟨front, final, rfl, same⟩
    rw [List.length_append, length_sameName same, Nat.add_sub_cancel, List.drop_left]
    exact same
  · intro same
    exact ⟨_, _, (List.take_append_drop _ name).symm, same⟩

instance (name ext : Str) : Decidable (TerminaEn name ext) :=
  decidable_of_iff _ (terminaEn_iff name ext).symm

/-- The content type of a name. -/
def tipoDe (name : Str) : String :=
  ((contentTypes.find? fun (ext, _) => TerminaEn name ext.toList).map Prod.snd).getD "text/plain"

/-- Looking for both marks finds the first of them. -/
theorem pathlen_eq (uri : Str) : pathlen uri = (pathDe uri).length := by
  induction uri with
  | nil => rfl
  | cons c rest ih =>
      by_cases quest : c = '?'
      · subst quest
        cases hash : ('?' :: rest).idxOf? '#' <;> simp [pathlen, pathDe, hash, List.idxOf?_cons]
      · by_cases hash : c = '#'
        · subst hash
          simp [pathlen, pathDe, List.idxOf?_cons]
        · rw [pathDe, List.takeWhile_cons_of_pos (by simp [quest, hash]), List.length_cons,
            ← pathDe, ← ih]
          simp only [pathlen, List.idxOf?_cons, beq_iff_eq, quest, hash, if_false,
            List.length_cons]
          cases rest.idxOf? '?' <;> cases rest.idxOf? '#' <;> simp

theorem take_pathlen (uri : Str) : uri.take (pathlen uri) = pathDe uri := by
  rw [pathlen_eq]
  exact (List.prefix_iff_eq_take.mp (List.takeWhile_prefix _)).symm

variable {n : Nat} {basePath uri : Str}

/-- The two copies together write the base path, the path and one terminator. -/
theorem getPathFromUriEn_eq (dest : Vector Char n)
    : getPathFromUriEn dest basePath uri
      = some (if n < basePath.length + (pathDe uri).length + 1 then (dest, none)
        else (overlay dest (basePath ++ pathDe uri ++ [nul]), some basePath.length)) := by
  rw [getPathFromUriEn, pathlen_eq]
  by_cases long : n < basePath.length + (pathDe uri).length + 1
  · rw [if_pos long, if_pos long]
  · rw [if_neg long, if_neg long]
    have first : strcpyAt dest 0 basePath = some (overlay dest (basePath ++ [nul])) := by
      have copied : copyAt (overlay dest []) 0 (basePath ++ [nul])
          = some (overlay dest ([] ++ (basePath ++ [nul]))) :=
        copyAt_overlay (by simp; omega) dest
      rwa [overlay_nil] at copied
    have second : strlcpyAt (overlay dest (basePath ++ [nul])) basePath.length uri
        ((pathDe uri).length + 1)
        = some (overlay dest (basePath ++ pathDe uri ++ [nul])) := by
      rw [strlcpyAt, strcpyAt, ← pathlen_eq, take_pathlen, List.append_assoc]
      exact copyAt_overlay_over (by simp) (by simp; omega) dest
    simp only [first, second, bind, Option.bind, pure]

/-- The end of a path with as many characters as an extension is that extension exactly when the
name ends in it, also where the name is shorter: no character of the base path starts one.
-/
theorem sameName_final {name ext front final : Str} {punto : Char} {resto : Str}
    (dotted : ext = punto :: resto) (other : ∀ c ∈ basePath, c.toLower ≠ punto.toLower)
    (whole : basePath ++ name = front ++ final) (long : final.length = ext.length)
    : Json.sameName final ext = true ↔ TerminaEn name ext := by
  constructor
  · intro same
    rcases List.append_eq_append_iff.mp whole with ⟨middle, -, ends⟩ | ⟨middle, base, starts⟩
    · exact ⟨middle, final, ends, same⟩
    · cases middle with
      | nil => exact ⟨[], final, starts.symm, same⟩
      | cons c middle =>
          rw [starts, dotted, Json.sameName, List.cons_append, List.map_cons, List.map_cons]
            at same
          have first : c.toLower = punto.toLower := (List.cons.inj (eq_of_beq same)).1
          exact absurd first (other c (by simp [base]))
  · rintro ⟨front', final', rfl, same⟩
    rw [← List.append_assoc] at whole
    obtain ⟨-, rfl⟩ := List.append_inj' whole ((length_sameName same).trans long.symm)
    exact same

/-- Counting back from the end of the name decides its extension: as long as the base path makes
up for what the name lacks, the comparison stays in the buffer.
-/
theorem isFileExt_eq {name ext : Str} {punto : Char} {resto : Str} (dest : Vector Char n)
    (front : nul ∉ basePath) (free : nul ∉ name) (room : (basePath ++ name).length < n)
    (long : ext.length ≤ (basePath ++ name).length)
    (dotted : ext = punto :: resto) (other : ∀ c ∈ basePath, c.toLower ≠ punto.toLower)
    : isFileExt (overlay dest (basePath ++ name ++ [nul])) basePath.length ext
      = some (decide (TerminaEn name ext)) := by
  obtain ⟨antes, final, whole, same⟩ : ∃ antes final, basePath ++ name = antes ++ final
      ∧ final.length = ext.length := by
    refine ⟨_, _, (List.take_append_drop
      ((basePath ++ name).length - ext.length) (basePath ++ name)).symm, ?_⟩
    rw [List.length_drop]
    omega
  have start : basePath.length + name.length - ext.length = antes.length := by
    have both := congrArg List.length whole
    rw [List.length_append, List.length_append] at both
    omega
  have shown : textAt (overlay dest (basePath ++ name ++ [nul])) basePath.length = some name :=
    textAt_overlay free room dest
  have last : textAt (overlay dest (basePath ++ name ++ [nul])) antes.length = some final := by
    rw [whole]
    refine textAt_overlay (fun member => ?_) (whole ▸ room) dest
    have inside : nul ∈ basePath ++ name := whole ▸ List.mem_append_right antes member
    exact (List.mem_append.mp inside).elim front free
  have reach : ¬basePath.length + name.length < ext.length := by
    rw [List.length_append] at long
    exact Nat.not_lt.mpr long
  simp only [isFileExt, shown, bind, Option.bind, if_neg reach, start, last, pure,
    Option.some.injEq]
  rw [Bool.eq_iff_iff, decide_eq_true_iff]
  exact sameName_final dotted other whole same

/-- The comparisons together give the type of the name. -/
theorem primerTipo_eq {name : Str} (dest : Vector Char n) {tipos : List (String × String)}
    (decided : ∀ tipo ∈ tipos,
      isFileExt (overlay dest (basePath ++ name ++ [nul])) basePath.length tipo.1.toList
        = some (decide (TerminaEn name tipo.1.toList)))
    : primerTipo (overlay dest (basePath ++ name ++ [nul])) basePath.length tipos
      = some (((tipos.find? fun (ext, _) => TerminaEn name ext.toList).map
          Prod.snd).getD "text/plain") := by
  induction tipos with
  | nil => rfl
  | cons tipo rest ih =>
      obtain ⟨ext, tipo⟩ := tipo
      obtain ⟨here, later⟩ := List.forall_mem_cons.mp decided
      rw [primerTipo, here]
      by_cases ends : TerminaEn name ext.toList
      · simp [ends, List.find?_cons_of_pos]
      · simpa [ends, List.find?_cons_of_neg] using ih later

theorem getPathFromUri_eq (uri : Str)
    : getPathFromUri uri
      = if filePathMax < "/spiffs".toList.length + (pathDe uri).length + 1 then none
        else some (pathDe uri) := by
  rw [String.length_toList]
  rfl

/-- What the file server needs of its base path. -/
structure Base (basePath : Str) : Prop where
  sinNul : nul ∉ basePath
  sinPunto : ∀ c ∈ basePath, c.toLower ≠ '.'.toLower
  ultimo : ∃ c, basePath.getLast? = some c ∧ c ≠ '/'
  largo : ∀ tipo ∈ contentTypes, tipo.1.toList.length ≤ basePath.length

theorem base_spiffs : Base "/spiffs".toList := by
  constructor
  · decide
  · have all : ("/spiffs".toList.all fun c => decide (c.toLower ≠ '.'.toLower)) = true := rfl
    intro c member
    exact of_decide_eq_true (List.all_eq_true.mp all c member)
  · exact ⟨'s', by decide⟩
  · decide

section Nombre

variable {name : Str} (base : Base basePath) (dest : Vector Char n)
    (room : (basePath ++ name).length < n)
include base room

theorem textAt_path (clean : nul ∉ name)
    : textAt (overlay dest (basePath ++ name ++ [nul])) 0 = some (basePath ++ name) := by
  have both : nul ∉ basePath ++ name := fun member =>
    (List.mem_append.mp member).elim base.sinNul clean
  have whole : textAt (overlay dest ([] ++ (basePath ++ name) ++ [nul])) 0
      = some (basePath ++ name) :=
    textAt_overlay both room dest
  exact whole

theorem setContentTypeFromFile_eq (clean : nul ∉ name)
    : setContentTypeFromFile (overlay dest (basePath ++ name ++ [nul])) basePath.length
      = some (tipoDe name) := by
  refine primerTipo_eq dest fun tipo member => ?_
  have dotted : ∀ tipo ∈ contentTypes, tipo.1.toList.head? = some '.' := by decide
  obtain ⟨resto, dot⟩ := List.head?_eq_some_iff.mp (dotted tipo member)
  have reach : tipo.1.toList.length ≤ (basePath ++ name).length := by
    rw [List.length_append]
    exact (base.largo tipo member).trans (Nat.le_add_right _ _)
  exact isFileExt_eq dest base.sinNul clean room reach dot base.sinPunto

/-- The character that the test for a directory reads: an empty name has the base path in front
of it.
-/
theorem load_ultimo
    : load (overlay dest (basePath ++ name ++ [nul])) (basePath.length + name.length - 1) nul = '/'
      ↔ name.getLast? = some '/' := by
  obtain ⟨c, ends, other⟩ := base.ultimo
  have front : 0 < basePath.length := by
    cases basePath with
    | nil => cases ends
    | cons head tail => exact Nat.succ_pos _
  have long : basePath.length + name.length - 1 < (basePath ++ name).length := by
    rw [List.length_append]
    omega
  have inside : basePath.length + name.length - 1 < (basePath ++ name ++ [nul]).length := by
    rw [List.length_append]
    exact Nat.lt_add_right _ long
  have written : (basePath ++ name ++ [nul]).length ≤ n := by
    rw [List.length_append]
    exact room
  have last : (basePath ++ name).getLast?
      = some (basePath ++ name)[basePath.length + name.length - 1] := by
    rw [List.getLast?_eq_getElem?, List.length_append, List.getElem?_eq_getElem]
  rw [load_overlay inside written, List.getElem_append_left long, ← Option.some.injEq, ← last,
    List.getLast?_append, ends]
  cases name.getLast? with
  | none => simpa using other
  | some last => exact Iff.rfl

end Nombre

theorem getPathFromUriEn_none (long : getPathFromUri uri = none)
    (buffer : Vector Char filePathMax)
    : getPathFromUriEn buffer "/spiffs".toList uri = some (buffer, none) := by
  rw [getPathFromUri_eq] at long
  rw [getPathFromUriEn_eq, if_pos ?_]
  by_contra short
  rw [if_neg short] at long
  cases long

/-- A name that fits stands in the buffer behind the base path. -/
theorem getPathFromUriEn_some {name : Str} (short : getPathFromUri uri = some name)
    (buffer : Vector Char filePathMax)
    : getPathFromUriEn buffer "/spiffs".toList uri
      = some (overlay buffer ("/spiffs".toList ++ name ++ [nul]), some "/spiffs".toList.length) := by
  rw [getPathFromUri_eq] at short
  obtain ⟨fits, same⟩ := Option.ite_none_left_eq_some.mp short
  obtain rfl := Option.some.inj same
  rw [getPathFromUriEn_eq, if_neg fits]

/-- A name is part of the URI, and with the base path it fits the buffer. -/
theorem nombre_breve {name : Str} (short : getPathFromUri uri = some name)
    : name.Sublist uri ∧ ("/spiffs".toList ++ name).length < filePathMax := by
  rw [getPathFromUri_eq] at short
  obtain ⟨fits, same⟩ := Option.ite_none_left_eq_some.mp short
  obtain rfl := Option.some.inj same
  refine ⟨List.takeWhile_sublist _, ?_⟩
  rw [List.length_append]
  omega

/-- The name that a request for a file gives: the function answers NULL exactly when the name is
too long, it never writes outside the buffer, and behind the call the buffer holds the whole path
and, from the returned place on, the name, whose extension decides the content type.
-/
theorem ruta_descarga (buffer : Vector Char filePathMax) {uri : Str} (free : nul ∉ uri)
    : (getPathFromUri uri = none
        → getPathFromUriEn buffer "/spiffs".toList uri = some (buffer, none))
      ∧ ∀ name, getPathFromUri uri = some name
        → ∃ buffer' filename,
          getPathFromUriEn buffer "/spiffs".toList uri = some (buffer', some filename)
          ∧ textAt buffer' 0 = some ("/spiffs".toList ++ name)
          ∧ textAt buffer' filename = some name
          ∧ setContentTypeFromFile buffer' filename = some (tipoDe name) := by
  refine ⟨fun long => getPathFromUriEn_none long buffer, fun name short => ?_⟩
  obtain ⟨part, room⟩ := nombre_breve short
  have clean : nul ∉ name := fun member => free (part.subset member)
  exact ⟨_, _, getPathFromUriEn_some short buffer, textAt_path base_spiffs buffer room clean,
    textAt_overlay clean room buffer, setContentTypeFromFile_eq base_spiffs buffer room clean⟩

/-- Witness: the query does not belong to the name, and case does not matter. -/
theorem ruta_descarga_pdf
    : ∃ filepath' filename,
        getPathFromUriEn (Vector.replicate filePathMax '#') "/spiffs".toList "/a.PDF?v=2".toList
          = some (filepath', some filename)
        ∧ textAt filepath' filename = some "/a.PDF".toList
        ∧ setContentTypeFromFile filepath' filename = some "application/pdf" := by
  have clean : nul ∉ "/a.PDF?v=2".toList := by decide
  obtain ⟨filepath', filename, made, -, name, type⟩ :=
    (ruta_descarga (Vector.replicate filePathMax '#') clean).2
      "/a.PDF".toList (by decide)
  exact ⟨filepath', filename, made, name, type⟩

end EspHttpControl.Http
