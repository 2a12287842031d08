import VibeScript.Number.Magnitude

/-!
Numbers in double precision: a sign and a magnitude, or no number at all. Sums, products and
quotients are computed exactly on units of 2^-1074 and then rounded once, to the nearest number.

Zero has two signs that compare equal (`same`), and only a number that is none differs from itself
(`same_self_iff`).
-/

namespace VibeScript

/-- A double precision number. -/
inductive Number where
  /-- The result of an operation that has none, such as infinity minus infinity. -/
  | undefined
  /-- A magnitude, below zero when `negative` is set. -/
  | signed (negative : Bool) (magnitude : Magnitude)
  deriving DecidableEq, Repr

namespace Number

/-- Zero without a minus sign. -/
def zero : Number := signed false .zero

/-- Zero, with a minus sign when `negative` is set. -/
def signedZero (negative : Bool) : Number := signed negative .zero

/-- Infinity, with a minus sign when `negative` is set. -/
def infinite (negative : Bool) : Number := signed negative .infinity

/-! ### Sixty-four bits -/

/-- The bit of the sign, above the bits of the rank. -/
def signBit : Nat := Nat.pow 2 63

/-- The number that sixty-four bits hold: the sign on top, the rank below it. A rank past infinity
is no number. -/
def ofBits (bits : Nat) : Number :=
  if h : bits % signBit ≤ infinityRank then signed (bits / signBit % 2 == 1) ⟨bits % signBit, h⟩
  else undefined

/-- The sixty-four bits of a number; one that is undefined has no bits of its own. -/
def bits? : Number → Option Nat
  | undefined => none
  | signed negative m => some (negative.toNat * signBit + m.rank)

/-- The bits of a number lead back to it. -/
theorem ofBits_bits (negative : Bool) (m : Magnitude) :
    ofBits (negative.toNat * signBit + m.rank) = signed negative m := by
  obtain ⟨r, hr⟩ := m
  have hlt : r < signBit := Nat.lt_of_le_of_lt hr (by decide)
  have hmod : (negative.toNat * signBit + r) % signBit = r := by
    rw [Nat.add_comm, Nat.add_mul_mod_self_right, Nat.mod_eq_of_lt hlt]
  have hdiv : (negative.toNat * signBit + r) / signBit = negative.toNat := by
    rw [Nat.add_comm, Nat.add_mul_div_right _ _ (by decide), Nat.div_eq_of_lt hlt, Nat.zero_add]
  simp only [ofBits, hmod, hdiv, hr, dite_true]
  cases negative <;> rfl

/-! ### Comparison -/

/-- Whether the number is a zero of either sign. -/
def isZero : Number → Bool
  | undefined => false
  | signed _ m => m.rank == 0

/-- Equality of numbers: the two zeros are equal, and an undefined number equals nothing. -/
def same : Number → Number → Bool
  | signed s m, signed t n => m == n && (s == t || m.rank == 0)
  | _, _ => false

/-- Only an undefined number differs from itself. -/
theorem same_self_iff (a : Number) : same a a = true ↔ a ≠ undefined := by
  cases a <;> simp [same]

/-! ### Arithmetic -/

/-- The number nearest to `num / den` units, with the given sign. -/
def nearest (negative : Bool) (num den : Nat) : Number := signed negative (.nearest num den)

/-- The units of a finite number, counted below zero for a negative one. -/
def signedUnits (negative : Bool) (m : Magnitude) : Int :=
  if negative then -(m.units : Int) else m.units

/-- The number of the opposite sign. -/
def neg : Number → Number
  | undefined => undefined
  | signed negative m => signed (!negative) m

/-- The nearest number to the sum. A sum of nothing is negative only if both summands are. -/
def add : Number → Number → Number
  | signed s m, signed t n =>
    if m.isFinite && n.isFinite then
      let sum := signedUnits s m + signedUnits t n
      if sum = 0 then signedZero (s && t) else nearest (sum < 0) sum.natAbs 1
    else if m.isFinite then signed t n
    else if n.isFinite || s == t then signed s m
    else undefined
  | _, _ => undefined

/-- The nearest number to the difference. -/
def sub (a b : Number) : Number := add a (neg b)

/-- The nearest number to the product; infinity times nothing is undefined. -/
def mul : Number → Number → Number
  | signed s m, signed t n =>
    if m.isFinite && n.isFinite then nearest (s != t) (m.units * n.units) unitsPerOne
    else if m.rank == 0 || n.rank == 0 then undefined
    else infinite (s != t)
  | _, _ => undefined

/-- The nearest number to the quotient; infinity by infinity and nothing by nothing are
undefined. -/
def div : Number → Number → Number
  | signed s m, signed t n =>
    match m.isFinite, n.isFinite with
    | false, false => undefined
    | false, true => infinite (s != t)
    | true, false => signedZero (s != t)
    | true, true =>
      if n.rank != 0 then nearest (s != t) (m.units * unitsPerOne) n.units
      else if m.rank != 0 then infinite (s != t)
      else undefined
  | _, _ => undefined

/-! ### Counting -/

/-- The least whole number that is not below a count, where a count is finite and not below
zero. -/
def ceiling? : Number → Option Nat
  | undefined => none
  | signed negative m =>
    if m.isFinite && (!negative || m.rank == 0) then
      some ((m.units + (unitsPerOne - 1)) / unitsPerOne)
    else none

end Number

end VibeScript
