import EspHttpControl.CText.Format
import EspHttpControl.Http.Device
import EspHttpControl.Machines.Runs

/-! The event log of the card: what `writelog` and `clearlog` leave in its file.
-/

namespace EspHttpControl.Client

open CText Machines
open Http (Device logTxt)

/-- The content of `log.txt`; a file that is not there reads as empty. -/
def contenido (d : Device) : Str := d.log.getD []

/-- `writelog`: the text with its newline is the format of `fprintf`, on a file opened to append.
-/
def writelog (d : Device) (text : Str) : Option Device :=
  (fprintf (text ++ ['\n'])).map fun printed =>
    { d with archivos := Function.update d.archivos logTxt (some (contenido d ++ printed)) }

/-- A call that changes the log. -/
inductive Anotacion
  | writelog (text : Str)
  | clearlog
deriving DecidableEq

/-- The log under the calls; it stops at a format that is undefined. -/
def bitacora : Machine Device Anotacion where
  step d
    | .writelog text => writelog d text
    | .clearlog => some d.clearlog

/-- The texts that were logged behind the last `clearlog`. -/
def vigentes (calls : List Anotacion) : List Str :=
  calls.foldl
    (fun texts call =>
      match call with
      | .writelog text => texts ++ [text]
      | .clearlog => [])
    []

/-- What the log should hold: the content as of the last `clearlog`, or the original one, and each
later text with a newline.
-/
def esperado (original : Str) (calls : List Anotacion) : Str :=
  (if .clearlog ∈ calls then "LOG DE EVENTOS ESP32\n".toList else original)
    ++ (vigentes calls).flatMap (· ++ ['\n'])

/-- In every logged text percent signs stand in pairs only. -/
def Definidos (calls : List Anotacion) : Prop :=
  ∀ text, .writelog text ∈ calls → fprintf text ≠ none

/-- The calls go through and leave what the log should hold. -/
def Fiel (d : Device) (calls : List Anotacion) : Prop :=
  ∃ d', bitacora.run d calls = some d' ∧ contenido d' = esperado (contenido d) calls

-----------------------------------------------------------------------------------------
-- One call
-----------------------------------------------------------------------------------------

theorem contenido_clearlog (d : Device)
    : contenido d.clearlog = "LOG DE EVENTOS ESP32\n".toList := by
  simp [contenido, Device.log, Device.clearlog]

/-- A call of `writelog` appends what its text prints, and a newline. -/
theorem writelog_eq_some {d d' : Device} {text : Str} (logged : writelog d text = some d')
    : ∃ printed, fprintf text = some printed
        ∧ contenido d' = contenido d ++ (printed ++ ['\n']) := by
  obtain ⟨line, defined, rfl⟩ := Option.map_eq_some_iff.mp logged
  rw [fprintf_concat text (by decide)] at defined
  obtain ⟨printed, printedText, rfl⟩ := Option.map_eq_some_iff.mp defined
  refine ⟨printed, printedText, ?_⟩
  simp [contenido, Device.log]

theorem writelog_ne_none {d : Device} {text : Str} (defined : fprintf text ≠ none)
    : ∃ d', writelog d text = some d' := by
  obtain ⟨printed, same⟩ := Option.ne_none_iff_exists'.mp defined
  rw [writelog, fprintf_concat text (by decide), same]
  exact ⟨_, rfl⟩

/-- A call of `writelog` keeps the log no longer than expected, and as expected exactly if it was
so before and the text has no percent sign: two parts that are no longer than their texts make up
the whole only if neither is shorter.
-/
theorem writelog_fiel {d d' : Device} {text expected : Str} (logged : writelog d text = some d')
    (short : (contenido d).length ≤ expected.length)
    : (contenido d').length ≤ (expected ++ (text ++ ['\n'])).length
      ∧ (contenido d' = expected ++ (text ++ ['\n']) ↔ contenido d = expected ∧ '%' ∉ text) := by
  obtain ⟨printed, same, content⟩ := writelog_eq_some logged
  obtain ⟨shortText, whole⟩ := length_fprintf same
  rw [content]
  refine ⟨?_, fun all => ?_, ?_⟩
  · simp only [List.length_append]
    omega
  · have lengths := congrArg List.length all
    simp only [List.length_append] at lengths
    exact ⟨(List.append_inj all (by omega)).1, (whole (by omega)).1⟩
  · rintro ⟨before, plain⟩
    rw [fprintf_of_free plain] at same
    rw [before, Option.some.inj same]

theorem vigentes_writelog (calls : List Anotacion) (text : Str)
    : vigentes (calls ++ [.writelog text]) = vigentes calls ++ [text] :=
  List.foldl_append

theorem vigentes_clearlog (calls : List Anotacion) : vigentes (calls ++ [.clearlog]) = [] :=
  List.foldl_append

/-- One text more is expected behind what was expected before. -/
theorem esperado_writelog (original : Str) (calls : List Anotacion) (text : Str)
    : esperado original (calls ++ [.writelog text])
      = esperado original calls ++ (text ++ ['\n']) := by
  have same : Anotacion.clearlog ∈ calls ++ [.writelog text] ↔ .clearlog ∈ calls := by simp
  simp only [esperado, same, vigentes_writelog, List.flatMap_append, List.append_assoc,
    List.flatMap_singleton]

theorem esperado_clearlog (original : Str) (calls : List Anotacion)
    : esperado original (calls ++ [.clearlog]) = "LOG DE EVENTOS ESP32\n".toList := by
  rw [esperado, vigentes_clearlog, if_pos (by simp), List.flatMap_nil, List.append_nil]

-----------------------------------------------------------------------------------------
-- A run of calls
-----------------------------------------------------------------------------------------

/-- A run that goes through was given no undefined format. -/
theorem definidos_of_run {d d' : Device} {calls : List Anotacion}
    (run : bitacora.run d calls = some d')
    : Definidos calls := by
  refine @Machine.history_run _ _ bitacora (fun calls _ => Definidos calls) _ _ _ ?_ ?_ run
  · exact fun text member => absurd member List.not_mem_nil
  · intro before visited call next reached defined taken text member
    rcases List.mem_append.mp member with earlier | last
    · exact defined text earlier
    · obtain rfl := List.mem_singleton.mp last
      obtain ⟨printed, same, -⟩ := writelog_eq_some taken
      rw [same]
      exact Option.some_ne_none printed

/-- Behind defined formats the log is no longer than expected, and as expected exactly if no
percent sign was logged since the last `clearlog`. By induction on the calls from their end.
-/
theorem run_of_definidos (d : Device) {calls : List Anotacion} (defined : Definidos calls)
    : ∃ d', bitacora.run d calls = some d'
        ∧ (contenido d').length ≤ (esperado (contenido d) calls).length
        ∧ (contenido d' = esperado (contenido d) calls
          ↔ ∀ text ∈ vigentes calls, '%' ∉ text) := by
  induction calls using List.reverseRecOn with
  | nil =>
      have same : esperado (contenido d) [] = contenido d := List.append_nil _
      refine ⟨d, rfl, by rw [same], ?_⟩
      rw [same]
      exact iff_of_true rfl fun text member => absurd member List.not_mem_nil
  | append_singleton calls call ih =>
      obtain ⟨middle, run, short, fiel⟩ := ih fun text member =>
        defined text (List.mem_append_left _ member)
      cases call with
      | clearlog =>
          refine ⟨middle.clearlog, by rw [bitacora.run_append, run]; rfl, ?_, ?_⟩
          · rw [contenido_clearlog, esperado_clearlog]
          · rw [contenido_clearlog, esperado_clearlog, vigentes_clearlog]
            exact iff_of_true rfl fun text member => absurd member List.not_mem_nil
      | writelog text =>
          obtain ⟨d', logged⟩ := writelog_ne_none (d := middle)
            (defined text (List.mem_append_right _ (List.mem_singleton.mpr rfl)))
          obtain ⟨shorter, whole⟩ := writelog_fiel logged short
          have step : bitacora.run d (calls ++ [.writelog text]) = some d' := by
            rw [bitacora.run_append, run, Option.bind_some, bitacora.run_cons]
            exact congrArg (Option.bind · fun next => bitacora.run next []) logged
          refine ⟨d', step, ?_, ?_⟩
          · rw [esperado_writelog]
            exact shorter
          · rw [esperado_writelog, whole, fiel, vigentes_writelog, List.forall_mem_append,
              List.forall_mem_singleton]

/-- The log holds the texts as given exactly if every format was defined and no percent sign was
logged since the last `clearlog`.
-/
theorem bitacora_fiel_iff (d : Device) (calls : List Anotacion)
    : Fiel d calls ↔ Definidos calls ∧ ∀ text ∈ vigentes calls, '%' ∉ text := by
  constructor
  · rintro ⟨d', run, content⟩
    have defined := definidos_of_run run
    obtain ⟨other, sameRun, -, fiel⟩ := run_of_definidos d defined
    obtain rfl := Option.some.inj (run.symm.trans sameRun)
    exact ⟨defined, fiel.mp content⟩
  · rintro ⟨defined, plain⟩
    obtain ⟨d', run, -, fiel⟩ := run_of_definidos d defined
    exact ⟨d', run, fiel.mpr plain⟩

/-- Of two percent signs one is lost. -/
theorem bitacora_porcentaje : ¬Fiel Device.nueva [.writelog "100%%".toList] := by
  rintro ⟨d', run, content⟩
  obtain ⟨middle, step, arrived⟩ := Option.bind_eq_some_iff.mp run
  obtain rfl := Option.some.inj arrived
  have called : writelog Device.nueva "100%%".toList = some middle := step
  obtain ⟨printed, same, logged⟩ := writelog_eq_some called
  have lost : printed = "100%".toList := Option.some.inj (same.symm.trans (by decide))
  have start : contenido Device.nueva = [] := rfl
  rw [logged, lost, start] at content
  exact absurd content (by decide)

end EspHttpControl.Client
