import VibeScript.Proofs.Lines
import VibeScript.Proofs.Outcome
import VibeScript.Proofs.Run
import VibeScript.Validation

/-!
Running a program and checking it agree on which lines are malformed. The checker reads every line,
whatever the lines above it do (`errors_validate`); a run reads the lines up to the first that
fails. So a run that ends well has no errors to report, one that ends at a malformed line has met
the first error, and one that ends at another fault has only errors further down
(`errors_validate_of_execute`).
-/

namespace VibeScript

namespace Validation

theorem error?_of_ok {l : SourceLine} {st : Statement} (h : Statement.parse l.text = .ok st)
    (file : Text) : error? file l = none := by
  rw [error?, h]

theorem error?_of_error {l : SourceLine} {fault : Fault}
    (h : Statement.parse l.text = .error fault) (file : Text) :
    error? file l = some ((l.fail fault).toDiagnostic file) := by
  rw [error?, h]

/-- An error is about the line that it was found in. -/
theorem line_of_error? {file : Text} {l : SourceLine} {d : Diagnostic}
    (h : error? file l = some d) : d.line = l.span.start.line := by
  unfold error? at h
  split at h
  · cases h
  · cases h; rfl

/-- Of the remarks about a line, the error alone is grave. -/
theorem errors_remarks (file : Text) (above : Option Opener) (l : SourceLine) :
    Diagnostics.errors (remarks file above l) = (error? file l).toList := by
  have herror : Diagnostics.errors (error? file l).toList = (error? file l).toList := by
    cases hp : Statement.parse l.text with
    | ok st => rw [error?_of_ok hp]; rfl
    | error fault => rw [error?_of_error hp]; rfl
  have hwarning : Diagnostics.errors
      (if l.isIndented then (above.map fun o => warning file o l).toList else []) = [] := by
    split
    · cases above <;> rfl
    · rfl
  rw [Diagnostics.errors, Diagnostics.ofSeverity] at herror hwarning ⊢
  rw [remarks, List.filter_append, herror, hwarning, List.append_nil]

/-- The errors are those of the single lines, whatever opener they are below. -/
theorem errors_remarksFrom (file : Text) (above : Option Opener) (ls : List SourceLine) :
    Diagnostics.errors (remarksFrom file above ls) = ls.filterMap (error? file) := by
  induction ls generalizing above with
  | nil => rfl
  | cons l ls ih =>
    have ih := ih (openerBelow above l)
    have hl := errors_remarks file above l
    rw [Diagnostics.errors, Diagnostics.ofSeverity] at ih hl ⊢
    rw [remarksFrom, List.filter_append, ih, hl]
    cases h : error? file l with
    | none => rw [List.filterMap_cons_none h]; rfl
    | some d => rw [List.filterMap_cons_some h]; rfl

/-- Checking finds the errors of all lines with a statement. -/
theorem errors_validate (source file : Text) :
    Diagnostics.errors (validate source file) =
      (Source.statementLines source).filterMap (error? file) :=
  errors_remarksFrom file none _

/-- Where all lines are statements there is no error. -/
theorem filterMap_error?_eq_nil {ls : List SourceLine}
    (h : ∀ l ∈ ls, ∃ st, Statement.parse l.text = .ok st) (file : Text) :
    ls.filterMap (error? file) = [] := by
  refine List.filterMap_eq_nil_iff.2 fun l hl => ?_
  obtain ⟨st, hst⟩ := h l hl
  exact error?_of_ok hst file

/-- All errors in the lines behind a line are further down than that line. -/
theorem lt_line_of_mem_errors {source file : Text} {before after : List SourceLine} {l : SourceLine}
    (h : Source.statementLines source = before ++ l :: after) {d : Diagnostic}
    (hd : d ∈ after.filterMap (error? file)) : l.number < d.line := by
  obtain ⟨m, hm, hmd⟩ := List.mem_filterMap.1 hd
  have hmem : m ∈ Source.statementLines source := by rw [h]; simp [hm]
  rw [line_of_error? hmd, Source.line_of_mem_statementLines hmem]
  exact Source.number_lt_of_statementLines h hm

end Validation

open Validation

/-- A line that fails cannot be read, or is a statement that fails. -/
theorem Context.error_cases_of_carryOut {s : Store} {l : SourceLine} {fault : Fault}
    (h : carryOut s l = .error fault) :
    Statement.parse l.text = .error fault ∨
      ∃ st, Statement.parse l.text = .ok st ∧ st.outcome s.get? = .error fault := by
  rcases error_cases_of_bind h with h | ⟨st, hst, h⟩
  · exact .inl h
  · exact .inr ⟨st, hst, Statement.apply_eq_error_iff.1 h⟩

/-- How a run ends tells which errors a check of the same source finds: none when the run ends well,
the failure of the run first of all when that is about the form of a line, and only errors further
down when it is not. -/
theorem errors_validate_of_execute (source file : Text) :
    ((execute source).failure = none → Diagnostics.errors (validate source file) = []) ∧
    (∀ f, (execute source).failure = some f → f.fault.code = "E001" →
      (Diagnostics.errors (validate source file)).head? = some (f.toDiagnostic file)) ∧
    (∀ f, (execute source).failure = some f → f.fault.code ≠ "E001" →
      ∀ d ∈ Diagnostics.errors (validate source file), f.line < d.line) ∧
    (Diagnostics.errors (validate source file) = [] →
      ∀ f, (execute source).failure = some f → f.fault.code ≠ "E001") := by
  rw [errors_validate]
  have hhead : ∀ f, (execute source).failure = some f → f.fault.code = "E001" →
      ((Source.statementLines source).filterMap (error? file)).head? =
        some (f.toDiagnostic file) := by
    intro f hf hcode
    obtain ⟨before, l, after, fault, hls, hok, hl, rfl⟩ := Context.exists_break rfl hf
    have hbefore := filterMap_error?_eq_nil (fun m hm => Context.exists_parse_of_mem hok hm) file
    rcases Context.error_cases_of_carryOut hl with hp | ⟨st, _, hst⟩
    · rw [hls, List.filterMap_append, hbefore, List.filterMap_cons_some (error?_of_error hp file)]
      rfl
    · have hsyntax := (Fault.isSyntax_iff fault).2 hcode
      rw [Statement.isSyntax_of_outcome hst] at hsyntax
      cases hsyntax
  refine ⟨fun h => ?_, hhead, fun f hf hcode d hd => ?_, fun hnil f hf hcode => ?_⟩
  · exact filterMap_error?_eq_nil (fun l hl => Context.exists_parse_of_mem h hl) file
  · obtain ⟨before, l, after, fault, hls, hok, hl, rfl⟩ := Context.exists_break rfl hf
    have hbefore := filterMap_error?_eq_nil (fun m hm => Context.exists_parse_of_mem hok hm) file
    rcases Context.error_cases_of_carryOut hl with hp | ⟨st, hst, _⟩
    · exact absurd ((Fault.isSyntax_iff fault).1 (Statement.isSyntax_of_parse hp)) hcode
    · rw [hls, List.filterMap_append, hbefore, List.filterMap_cons_none (error?_of_ok hst file),
        List.nil_append] at hd
      exact lt_line_of_mem_errors hls hd
  · have hsome := hhead f hf hcode
    rw [hnil] at hsome
    cases hsome

/-- A run stops at the first of two malformed lines, or at an unknown name above them. -/
theorem errors_validate_of_malformed_lines :
    (∃ f, (execute "vibe a = 1\nvibe\nvibe").failure = some f ∧ f.fault.code = "E001" ∧
      (Diagnostics.errors (validate "vibe a = 1\nvibe\nvibe" "f")).head? =
        some (f.toDiagnostic "f")) ∧
    ∃ f, (execute "shout a\nvibe\nvibe").failure = some f ∧ f.fault.code ≠ "E001" ∧
      ∃ d ∈ Diagnostics.errors (validate "shout a\nvibe\nvibe" "f"), f.line < d.line := by
  have hmalformed : (execute "vibe a = 1\nvibe\nvibe").failure.map (fun f => f.fault.code) =
      some "E001" := by decide +kernel
  have hunknown : (execute "shout a\nvibe\nvibe").failure.map (fun f => f.fault.code) =
      some "E002" := by decide +kernel
  have herrors : Diagnostics.errors (validate "shout a\nvibe\nvibe" "f") ≠ [] := by
    decide +kernel
  refine ⟨?_, ?_⟩
  · obtain ⟨f, hf, hcode⟩ := Option.map_eq_some_iff.1 hmalformed
    exact ⟨f, hf, hcode, (errors_validate_of_execute _ _).2.1 f hf hcode⟩
  · obtain ⟨f, hf, hcode⟩ := Option.map_eq_some_iff.1 hunknown
    have hne : f.fault.code ≠ "E001" := by rw [hcode]; decide
    obtain ⟨d, hd⟩ := List.exists_mem_of_ne_nil _ herrors
    exact ⟨f, hf, hne, d, hd, (errors_validate_of_execute _ _).2.2.1 f hf hne d hd⟩

end VibeScript
