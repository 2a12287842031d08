import VibeScript.Diagnostic
import VibeScript.Fault
import VibeScript.Source

/-!
A failure is a fault at a place: it ends a run, and it can be reported as a diagnostic about its
line.
-/

namespace VibeScript

/-- A fault, and the line of the source that it is about. -/
structure Failure where
  line : Nat
  text : Text
  span : Span
  fault : Fault
  deriving DecidableEq, Repr

/-- The failure of a line. -/
def SourceLine.fail (l : SourceLine) (fault : Fault) : Failure := ⟨l.number, l.text, l.span, fault⟩

namespace Failure

/-- The message of a failure, with its line. -/
def message (f : Failure) : Text := "line " ++ Text.ofNat f.line ++ ": " ++ f.fault.message

/-- A failure as a diagnostic about a file. -/
def toDiagnostic (f : Failure) (file : Text) : Diagnostic :=
  ⟨.error, f.fault.code, f.fault.message, file, f.span, some f.text, f.fault.hint⟩

/-- The code under which a failure is shown next to its source. -/
def labelCode (f : Failure) : Text := "kang::" ++ f.fault.name

/-- The stretch of the source that a failure is about: its offset and its length in bytes. -/
def label (f : Failure) : Nat × Nat := (f.span.start.offset, f.span.length)

end Failure

end VibeScript
