import VibeScript.Number.Layout

/-!
The values of the language: numbers, strings and booleans, how they are shown, and when two of
them are the same. Values of different types are never the same.
-/

namespace VibeScript

/-- The types of values. -/
inductive ValueType where
  | number
  | string
  | boolean
  deriving DecidableEq, Repr

/-- The name of a type. -/
def ValueType.name : ValueType → Text
  | number => "number"
  | string => "string"
  | boolean => "boolean"

/-- A value. -/
inductive Value where
  | number (n : Number)
  | string (s : Text)
  | boolean (b : Bool)
  deriving DecidableEq, Repr

namespace Value

/-- The type of a value. -/
def type : Value → ValueType
  | number _ => .number
  | string _ => .string
  | boolean _ => .boolean

/-- The text that a value prints as. -/
def text : Value → Text
  | number n => n.text
  | string s => s
  | boolean b => if b then "true" else "false"

/-- The text that a value has in listings: a string stands between quotes. -/
def literal : Value → Text
  | string s => '"' :: s ++ ['"']
  | v => v.text

/-- Whether two values are of one type and equal. -/
def same : Value → Value → Bool
  | number a, number b => a.same b
  | string a, string b => a == b
  | boolean a, boolean b => a == b
  | _, _ => false

end Value

end VibeScript
