import VibeScript.Execution
import VibeScript.Json
import VibeScript.Token

/-!
What runs, checks and tokens look like as JSON documents.
-/

namespace VibeScript

/-- The member of a name, if there is a text for it. -/
def Json.member? (name : Text) : Option Text → List (Text × Json)
  | none => []
  | some t => [(name, .string t)]

/-- The members that every diagnostic has. -/
def Diagnostic.members (d : Diagnostic) (span : Json) : List (Text × Json) :=
  [("severity", .string d.severity.name), ("code", .string d.code), ("message", .string d.message),
    ("file", .string d.file), ("span", span)]

/-- A position as a document. -/
def Position.toJson (p : Position) : Json :=
  .object [("line", .count p.line), ("column", .count p.column), ("offset", .count p.offset)]

/-- A span as a document. -/
def Span.toJson (s : Span) : Json :=
  .object [("start", s.start.toJson), ("end", s.stop.toJson)]

/-- A value as a document, without its type. -/
def Value.toJson : Value → Json
  | number n => .number n
  | string s => .string s
  | boolean b => .boolean b

/-- A binding as a document. -/
def Binding.toJson (b : Binding) : Json :=
  .object [("name", .string b.name), ("type", .string b.value.type.name), ("value", b.value.toJson)]

/-- The report of a failure. -/
def Failure.toJson (f : Failure) : Json :=
  .object [("code", .string f.fault.code), ("kind", .string f.fault.name), ("line", .count f.line),
    ("message", .string f.message)]

/-- The report of a run. -/
def Context.toJson (c : Context) : Json :=
  .object [("status", .string (statusWord !c.isOk)), ("output", .list (c.output.map .string)),
    ("variables", .list (c.store.bindings.map Binding.toJson)),
    ("error", match c.failure with
      | none => .null
      | some f => f.toJson)]

/-- A diagnostic as a document; what is not known is left out. -/
def Diagnostic.toJson (d : Diagnostic) : Json :=
  .object (d.members d.span.toJson ++ Json.member? "context" d.context ++
    Json.member? "help" d.help)

/-- The report of a check as a document. -/
def CheckReport.toJson (r : CheckReport) : Json :=
  .object [("version", .string r.version), ("status", .string r.status),
    ("errors", .list (r.errors.map Diagnostic.toJson)),
    ("warnings", .list (r.warnings.map Diagnostic.toJson)),
    ("summary", .object [("total_errors", .count r.errors.length),
      ("total_warnings", .count r.warnings.length)])]

/-- A token as a document. -/
def Token.toJson (t : Token) : Json :=
  .object [("kind", .string t.kind.name), ("text", .string t.text), ("span", t.span.toJson)]

end VibeScript
