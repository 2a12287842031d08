import VibeScript.Failure
import VibeScript.Statement

/-!
Checking a program without running it: every line with a statement is read, every malformed one is
an error, and an indented line below a `grind` or `fr` is warned about, since it is no body of the
line above.

What the checker remembers from line to line is the opener: the last line that is not indented, if
it is a `grind` or an `fr`.
-/

namespace VibeScript

namespace Validation

/-- A line that may be taken for the head of a block: its kind and its number. -/
structure Opener where
  keyword : Text
  line : Nat
  deriving DecidableEq, Repr

/-- The opener that a line is, by the kind of its statement. -/
def opener? (kind : StatementKind) (line : Nat) : Option Opener :=
  match kind with
  | .grind | .compare => some ⟨kind.keyword, line⟩
  | _ => none

/-- The warning about an indented line below an opener. -/
def warning (file : Text) (o : Opener) (l : SourceLine) : Diagnostic :=
  ⟨.warning, "W001",
    "Indented line is not a body of `" ++ o.keyword ++ "` on line " ++ Text.ofNat o.line ++
      "; it runs once",
    file, l.span, some l.text,
    some "`grind` only prints loop iterations and `fr` only reports the comparison"⟩

/-- The error about a line that is no statement. -/
def error? (file : Text) (l : SourceLine) : Option Diagnostic :=
  match Statement.parse l.text with
  | .ok _ => none
  | .error fault => some ((l.fail fault).toDiagnostic file)

/-- The opener below a line, given the one above it. -/
def openerBelow (above : Option Opener) (l : SourceLine) : Option Opener :=
  if l.isIndented then above
  else match Statement.parse l.text with
    | .ok statement => opener? statement.kind l.number
    | .error _ => none

/-- What is reported about a line below an opener, an error before a warning. -/
def remarks (file : Text) (above : Option Opener) (l : SourceLine) : List Diagnostic :=
  (error? file l).toList ++
    if l.isIndented then (above.map fun o => warning file o l).toList else []

/-- What is reported about lines, from a line on that is below an opener or below none. -/
def remarksFrom (file : Text) (above : Option Opener) : List SourceLine → List Diagnostic
  | [] => []
  | l :: ls => remarks file above l ++ remarksFrom file (openerBelow above l) ls

end Validation

/-- Checks a program. -/
def validate (source file : Text) : List Diagnostic :=
  Validation.remarksFrom file none (Source.statementLines source)

end VibeScript
