import VibeScript.Fault

/-!
Arithmetic on values. Numbers are computed with, and a string on either side of an addition joins
the texts of both sides; every other pair of types is a mismatch. A zero divisor is found before
the types are looked at.
-/

namespace VibeScript.Value

/-- The result of a numeric operation on two numbers, a mismatch for all else. -/
def numeric (op : Operator) (f : Number → Number → Number) : Value → Value → Except Fault Value
  | number a, number b => .ok (number (f a b))
  | v, w => .error (.mismatch op v.type w.type)

/-- The sum of two numbers, or the joined texts when either side is a string. -/
def add : Value → Value → Except Fault Value
  | string s, w => .ok (string (s ++ w.text))
  | v, string s => .ok (string (v.text ++ s))
  | v, w => numeric .add Number.add v w

/-- Whether a value is a number equal to zero. -/
def isZero : Value → Bool
  | number n => n.isZero
  | _ => false

/-- The quotient of two numbers, unless the divisor is zero. -/
def div (v w : Value) : Except Fault Value :=
  if w.isZero then .error .divisionByZero else numeric .div Number.div v w

/-- The result of an operation. -/
def calculate : Operator → Value → Value → Except Fault Value
  | .add => add
  | .sub => numeric .sub Number.sub
  | .mult => numeric .mult Number.mul
  | .div => div

/-- Arithmetic never results in a boolean. -/
theorem type_calculate {op : Operator} {v w r : Value} (h : calculate op v w = .ok r) :
    r.type ≠ .boolean := by
  cases op <;> cases v <;> cases w <;> simp only [calculate, add, numeric, div] at h <;>
    (try split at h) <;> simp_all <;> (subst h; simp [type])

end VibeScript.Value
