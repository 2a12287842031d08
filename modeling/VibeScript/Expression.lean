import VibeScript.Fault
import VibeScript.Store

/-!
What an expression stands for. A literal has a value of its own: a text between quotes, a numeral,
`true` or `false`. Every other word is a name, and its value comes from the store; all other texts
stand for nothing. So a store matters to an expression in one entry at most
(`resolve_eq_of_get?_eq`).
-/

namespace VibeScript

namespace Expression

/-- The text between the quotes, of a text that begins and ends with one. -/
def quoted? : Text → Option Text
  | '"' :: rest => if rest.getLast? = some '"' then some rest.dropLast else none
  | _ => none

/-- The value of a literal. -/
def literal? (t : Text) : Option Value :=
  match quoted? t with
  | some inner => some (.string inner)
  | none =>
    if Decimal.isNumeral t then some (.number (.ofNumeral t))
    else if t = "true" then some (.boolean true)
    else if t = "false" then some (.boolean false)
    else none

end Expression

namespace Store

/-- The value of a name, which has to be bound. -/
def lookup (s : Store) (name : Text) : Except Fault Value :=
  match s.get? name with
  | some value => .ok value
  | none => .error (.unbound name)

/-- The value of an expression without blanks at its ends. -/
def resolveTrimmed (s : Store) (t : Text) : Except Fault Value :=
  match Expression.literal? t with
  | some value => .ok value
  | none => if Text.isWord t then s.lookup t else .error (.unresolved t)

/-- The value of an expression. -/
def resolve (s : Store) (expression : Text) : Except Fault Value :=
  s.resolveTrimmed (Text.trim expression)

/-- The value of an expression depends on the entry of its own text only. -/
theorem resolve_eq_of_get?_eq {s t : Store} {expression : Text}
    (h : s.get? (Text.trim expression) = t.get? (Text.trim expression)) :
    s.resolve expression = t.resolve expression := by
  simp only [resolve, resolveTrimmed, lookup, h]

end Store

end VibeScript
