import VibeScript.Text
import VibeScript.Number

/-!
Decimal fractions: how a numeral is read as the number nearest to it, and which decimal fraction
stands for a magnitude when it is written.

The fraction chosen has the fewest digits that read back as the magnitude, and among those it is
the nearest. Whatever is chosen reads back (`magnitude_shortest`).
-/

namespace VibeScript

/-- The decimal fraction `digits * 10 ^ exponent`. -/
structure Decimal where
  digits : Nat
  exponent : Int
  deriving DecidableEq, Repr

namespace Decimal

/-- The magnitude nearest to a decimal fraction. -/
def magnitude (d : Decimal) : Magnitude :=
  .nearest (d.digits * Nat.pow 10 d.exponent.toNat * unitsPerOne) (Nat.pow 10 (-d.exponent).toNat)

/-! ### Reading a numeral -/

/-- Whether a text is digits, digits with a point behind or inside, or a point and digits. -/
def isUnsignedNumeral (t : Text) : Bool :=
  match t.dropWhile Char.isDigit with
  | [] => !t.isEmpty
  | point :: fraction =>
    point == '.' && fraction.all Char.isDigit && (t.head? != some '.' || !fraction.isEmpty)

/-- A text without a sign at its start. -/
def unsigned : Text → Text
  | '+' :: t => t
  | '-' :: t => t
  | t => t

/-- Whether a text is a numeral: an unsigned one, or one behind a single sign. -/
def isNumeral (t : Text) : Bool := isUnsignedNumeral (unsigned t)

/-- The decimal fraction that an unsigned numeral states. -/
def ofNumeral (t : Text) : Decimal :=
  ⟨Text.toNat (t.filter (· != '.')), -((t.dropWhile (· != '.')).drop 1).length⟩

end Decimal

/-- The number nearest to what a numeral states. -/
def Number.ofNumeral (t : Text) : Number :=
  .signed (t.head? == some '-') (Decimal.ofNumeral (Decimal.unsigned t)).magnitude

namespace Decimal

/-! ### The fewest digits -/

/-- Which of two decimal fractions is taken when both are equally near. -/
inductive Tie where
  /-- The larger one. -/
  | up
  /-- The one whose last digit is even. -/
  | even
  deriving DecidableEq, Repr

/-- The number of decimal digits of a natural number. -/
def digitCount (n : Nat) : Nat := if n < 10 then 1 else digitCount (n / 10) + 1

/-- The power of ten of the leading digit of a finite magnitude above zero, from the number of
digits of its whole part, or of the whole part of its inverse: no power of ten below one is a
magnitude. -/
def leadingPower (m : Magnitude) : Int :=
  if unitsPerOne ≤ m.units then digitCount (m.units / unitsPerOne) - 1
  else -digitCount (unitsPerOne / m.units)

/-- On the grid of multiples of `10 ^ power`, the neighbour of the magnitude that reads back as it,
the nearer one if both do. -/
def neighbour? (tie : Tie) (m : Magnitude) (power : Int) : Option Decimal :=
  let num := m.units * Nat.pow 10 (-power).toNat
  let den := unitsPerOne * Nat.pow 10 power.toNat
  let below : Decimal := ⟨num / den, power⟩
  let above : Decimal := ⟨num / den + 1, power⟩
  let twice := 2 * (num % den)
  let belowNearer := twice < den || twice == den && tie == .even && num / den % 2 == 0
  let ordered := if belowNearer then [below, above] else [above, below]
  ordered.find? fun d => d.magnitude == m

/-- All digits of a magnitude. -/
def exact (m : Magnitude) : Decimal := ⟨m.units * Nat.pow 5 unitPower, -unitPower⟩

/-- The decimal fraction of the fewest digits that reads back as the magnitude, on the first of the
grids of one to seventeen digits that has one. -/
def onGrid (tie : Tie) (m : Magnitude) : Decimal :=
  ((List.range 17).findSome? fun n : Nat => neighbour? tie m (leadingPower m - n)).getD (exact m)

/-- The same decimal fraction without zeros at the end of its digits. -/
def withoutZeros (d : Decimal) : Decimal :=
  if h : d.digits ≠ 0 ∧ d.digits % 10 = 0 then withoutZeros ⟨d.digits / 10, d.exponent + 1⟩ else d
termination_by d.digits
decreasing_by exact Nat.div_lt_self (Nat.pos_of_ne_zero h.1) (by decide)

/-- The decimal fraction that is written for a magnitude. -/
def shortest (tie : Tie) (m : Magnitude) : Decimal := (onGrid tie m).withoutZeros

/-! ### What is written reads back -/

/-- The power of no factors is one. -/
theorem power_zero (b : Nat) : Nat.pow b 0 = 1 := rfl

/-- A power has one factor more than the one before it. -/
theorem power_succ (b n : Nat) : Nat.pow b (n + 1) = Nat.pow b n * b := rfl

/-- A power of a number above zero is above zero. -/
theorem power_pos {b : Nat} (h : 0 < b) (n : Nat) : 0 < Nat.pow b n := Nat.pow_pos h

/-- A power of ten is a power of five and one of two. -/
theorem pow_ten (n : Nat) : Nat.pow 10 n = Nat.pow 5 n * Nat.pow 2 n := by
  simp only [Nat.pow_eq, ← Nat.mul_pow]

/-- Units over a power of two are digits over a power of ten. -/
theorem nearest_pow_ten (u p : Nat) :
    Magnitude.nearest (u * Nat.pow 5 p * Nat.pow 2 p) (Nat.pow 10 p) = Magnitude.nearest u 1 := by
  have hscale := Magnitude.nearest_mul u 1 (power_pos (show 0 < 10 by decide) p)
  rwa [Nat.one_mul, pow_ten, ← Nat.mul_assoc, ← pow_ten] at hscale

/-- All digits of a magnitude read back as it. -/
theorem magnitude_exact (m : Magnitude) : (exact m).magnitude = m := by
  have hneg : (-(unitPower : Int)).toNat = 0 := by omega
  have hpos : (- -(unitPower : Int)).toNat = unitPower := by omega
  have hzero : ∀ p, p = 0 → Nat.pow 10 p = 1 := fun p hp => hp ▸ rfl
  rw [magnitude, exact, hpos, hzero _ hneg, Nat.mul_one]
  delta unitsPerOne
  exact (nearest_pow_ten m.units unitPower).trans m.nearest_units

/-- The neighbour that is taken reads back. -/
theorem magnitude_of_neighbour? {tie : Tie} {m : Magnitude} {power : Int} {d : Decimal}
    (h : neighbour? tie m power = some d) : d.magnitude = m := by
  have := List.find?_some h
  simpa using this

/-- What is found on the grids reads back. -/
theorem magnitude_onGrid (tie : Tie) (m : Magnitude) : (onGrid tie m).magnitude = m := by
  rw [onGrid]
  cases h : (List.range 17).findSome? fun n : Nat => neighbour? tie m (leadingPower m - n) with
  | none => exact magnitude_exact m
  | some d =>
    obtain ⟨n, _, hn⟩ := List.exists_of_findSome?_eq_some h
    exact magnitude_of_neighbour? hn

/-- Moving a zero from the digits to the exponent keeps the magnitude. -/
theorem magnitude_shift (digits : Nat) (exponent : Int) :
    (Decimal.mk (digits * 10) exponent).magnitude =
      (Decimal.mk digits (exponent + 1)).magnitude := by
  simp only [magnitude]
  by_cases h : 0 ≤ exponent
  · have h1 : (exponent + 1).toNat = exponent.toNat + 1 := by omega
    have h2 : (-exponent).toNat = 0 := by omega
    have h3 : (-(exponent + 1)).toNat = 0 := by omega
    rw [h1, h2, h3, power_succ, Nat.mul_assoc digits, Nat.mul_comm 10]
  · have h1 : exponent.toNat = 0 := by omega
    have h2 : (exponent + 1).toNat = 0 := by omega
    have h3 : (-exponent).toNat = (-(exponent + 1)).toNat + 1 := by omega
    rw [h1, h2, h3, power_succ, power_zero, Nat.mul_one, Nat.mul_one,
      ← Magnitude.nearest_mul (digits * unitsPerOne) _ (show 0 < 10 by decide)]
    rw [Nat.mul_right_comm digits 10]

/-- Taking the zeros off the end keeps the magnitude. -/
theorem magnitude_withoutZeros (d : Decimal) : d.withoutZeros.magnitude = d.magnitude := by
  fun_induction withoutZeros d with
  | case1 d h ih =>
    have hd : d.digits / 10 * 10 = d.digits := by omega
    rw [ih, ← magnitude_shift, hd]
  | case2 => rfl

/-- The decimal fraction written for a magnitude reads back as it. -/
theorem magnitude_shortest (tie : Tie) (m : Magnitude) : (shortest tie m).magnitude = m := by
  rw [shortest, magnitude_withoutZeros, magnitude_onGrid]

end Decimal

end VibeScript
