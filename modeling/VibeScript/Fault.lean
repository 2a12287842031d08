import VibeScript.Statement.Kind
import VibeScript.Value

/-!
Faults are the reasons why a statement cannot be carried out. Each has a code, a name, a message
and at times a hint; the code and the name depend on the sort of fault only.
-/

namespace VibeScript

/-- Why a statement cannot be carried out. -/
inductive Fault where
  /-- The line does not have the shape of its kind, or it opens as no kind at all. -/
  | malformed (kind : Option StatementKind) (line : Text)
  /-- The name has no value. -/
  | unbound (name : Text)
  /-- The text is no literal and no name. -/
  | unresolved (expression : Text)
  /-- The divisor is zero. -/
  | divisionByZero
  /-- The value, given by its literal, does not count anything. -/
  | badCount (found : Text)
  /-- The operation does not take values of these types. -/
  | mismatch (op : Operator) (left right : ValueType)
  deriving DecidableEq, Repr

/-- What is wrong with a line that opens as a statement of this kind and is none. -/
def StatementKind.complaint : StatementKind → Text
  | declare => "Invalid variable declaration syntax"
  | shout => "Invalid print statement syntax"
  | arithmetic .add => "Invalid addition syntax"
  | arithmetic .sub => "Invalid subtraction syntax"
  | arithmetic .mult => "Invalid multiplication syntax"
  | arithmetic .div => "Invalid division syntax"
  | grind => "Invalid loop syntax"
  | compare => "Invalid conditional syntax"
  | keep => "Invalid keep statement syntax"

namespace Fault

/-- The code of a fault. -/
def code : Fault → Text
  | malformed .. => "E001"
  | unbound .. => "E002"
  | unresolved .. => "E003"
  | divisionByZero => "E004"
  | badCount .. => "E005"
  | mismatch .. => "E006"

/-- The name of a fault. -/
def name : Fault → Text
  | malformed .. => "SyntaxError"
  | unbound .. => "UnboundVariableError"
  | unresolved .. => "UnresolvedValueError"
  | divisionByZero => "DivisionByZeroError"
  | badCount .. => "InvalidLoopCountError"
  | mismatch .. => "TypeMismatchError"

/-- What is wrong with a malformed line. -/
def complaint : Option StatementKind → Text
  | none => "Unknown statement"
  | some kind => kind.complaint

/-- The message of a fault. -/
def message : Fault → Text
  | malformed kind line => complaint kind ++ ": " ++ line
  | unbound name => "Variable '" ++ name ++ "' not found"
  | unresolved expression => "Unknown value: " ++ expression
  | divisionByZero => "Division by zero"
  | badCount found => "Loop count must be a non-negative number, got " ++ found
  | mismatch op left right =>
    "Cannot " ++ op.word ++ " " ++ left.name ++ " and " ++ right.name

/-- The hint that goes with a fault. -/
def hint : Fault → Option Text
  | malformed .. =>
    some "statements start with vibe, shout, add, sub, mult, div, grind, fr or keep vibing"
  | unbound .. => some "declare it first with `vibe NAME = VALUE`"
  | unresolved .. =>
    some "values are \"strings\", decimal numbers, true, false or variable names"
  | mismatch .add .. =>
    some ("add works on two numbers, or on a string and any value; " ++
      "booleans are never coerced to numbers")
  | mismatch .. =>
    some "both operands must be numbers; booleans are never coerced to numbers"
  | divisionByZero => none
  | badCount .. => none

end Fault

end VibeScript
