/-!
The magnitudes of double precision numbers, listed by rank: rank 0 is zero, each next rank is the
next larger magnitude, and the last rank is infinity. Every finite magnitude is a whole number of
units of 2^-1074, so a magnitude is known exactly by its `units`, and all exact arithmetic takes
place in the natural numbers.

`nearest` takes a fraction of units back to the magnitude nearest to it, a tie going to the even
rank. Its law ties it to `units`: a fraction that is a magnitude is its own nearest one
(`nearest_units`).
-/

namespace VibeScript

/-- The number of magnitudes in one binade. -/
def binade : Nat := Nat.pow 2 52

/-- The rank of infinity: the magnitudes below it fill 2047 binades. -/
def infinityRank : Nat := 2047 * binade

/-- One unit is two to this power, below one. -/
def unitPower : Nat := 1074

/-- One is this many units. -/
def unitsPerOne : Nat := Nat.pow 2 unitPower

/-- A magnitude, by its place in the order of all magnitudes. -/
structure Magnitude where
  rank : Nat
  rank_le : rank ≤ infinityRank
  deriving DecidableEq, Repr

namespace Magnitude

/-- The magnitude zero. -/
def zero : Magnitude := ⟨0, Nat.zero_le _⟩

/-- The magnitude infinity. -/
def infinity : Magnitude := ⟨infinityRank, Nat.le_refl _⟩

/-- Whether a magnitude is less than infinity. -/
def isFinite (m : Magnitude) : Bool := m.rank < infinityRank

/-- The units of the magnitude of rank `r`: in the first binade a step is one unit, and from the
third binade on it doubles with each. -/
def unitsOfRank (r : Nat) : Nat :=
  if r < binade then r else (binade + r % binade) * Nat.pow 2 (r / binade - 1)

/-- The number of units of 2^-1074 that the magnitude holds. -/
def units (m : Magnitude) : Nat := unitsOfRank m.rank

/-- The quotient of two naturals rounded to the nearest one, a tie going to the even one. -/
def roundHalfEven (num den : Nat) : Nat :=
  let q := num / den
  let r := num % den
  if 2 * r < den then q else if den < 2 * r then q + 1 else q + q % 2

/-- The rank next to `num / den` units on the scale where the steps are as wide as in the binade
of that fraction. -/
def nearestRank (num den : Nat) : Nat :=
  let doublings := (num / den).log2 - 52
  doublings * binade + roundHalfEven num (den * Nat.pow 2 doublings)

/-- The magnitude nearest to `num / den` units, infinity when it lies past the finite ones. -/
def nearest (num den : Nat) : Magnitude :=
  ⟨min (nearestRank num den) infinityRank, Nat.min_le_right _ _⟩

/-- A whole quotient is rounded to itself. -/
theorem roundHalfEven_mul (k : Nat) {den : Nat} (h : 0 < den) :
    roundHalfEven (k * den) den = k := by
  simp [roundHalfEven, Nat.mul_div_cancel _ h, h]

/-- The units of a rank lead back to the rank. -/
theorem nearestRank_unitsOfRank (r : Nat) : nearestRank (unitsOfRank r) 1 = r := by
  have hb : binade = 2 ^ 52 := rfl
  unfold nearestRank unitsOfRank
  simp only [Nat.pow_eq]
  split
  case isTrue h =>
    have hlog : r.log2 ≤ 52 := by
      by_cases h0 : r = 0
      · simp [h0]
      · have := (Nat.log2_lt h0).2 (show r < 2 ^ 53 by omega)
        omega
    have hz : (r / 1).log2 - 52 = 0 := by rw [Nat.div_one]; omega
    have hr := roundHalfEven_mul r Nat.one_pos
    simp only [hz, Nat.pow_zero, Nat.mul_one, Nat.zero_mul, Nat.zero_add] at hr ⊢
    exact hr
  case isFalse h =>
    have hm : r % binade < binade := Nat.mod_lt _ (by omega)
    have hdm : binade * (r / binade) + r % binade = r := Nat.div_add_mod _ _
    have hq : 1 ≤ r / binade := (Nat.one_le_div_iff (by omega)).2 (by omega)
    have hlog : ((binade + r % binade) * 2 ^ (r / binade - 1)).log2 = 52 + (r / binade - 1) := by
      rw [Nat.log2_eq_iff (by
        have : 0 < 2 ^ (r / binade - 1) := Nat.two_pow_pos _
        exact Nat.pos_iff_ne_zero.1 (Nat.mul_pos (by omega) this))]
      rw [show 52 + (r / binade - 1) + 1 = 53 + (r / binade - 1) by omega, Nat.pow_add, Nat.pow_add]
      constructor
      · exact Nat.mul_le_mul_right _ (by omega)
      · exact Nat.mul_lt_mul_of_pos_right (by omega) (Nat.two_pow_pos _)
    have hs : (((binade + r % binade) * 2 ^ (r / binade - 1)) / 1).log2 - 52 = r / binade - 1 := by
      rw [Nat.div_one, hlog]; omega
    simp only [hs]
    rw [Nat.one_mul, roundHalfEven_mul _ (Nat.two_pow_pos _)]
    have hmul : (r / binade - 1) * binade + binade = binade * (r / binade) := by
      obtain ⟨k, hk⟩ : ∃ k, r / binade = k + 1 := ⟨r / binade - 1, by omega⟩
      rw [hk, Nat.add_sub_cancel, Nat.mul_comm, ← Nat.mul_succ]
    omega

/-- Widening a fraction does not change what it is rounded to. -/
theorem roundHalfEven_mul_mul {num den k : Nat} (h : 0 < k) :
    roundHalfEven (num * k) (den * k) = roundHalfEven num den := by
  have h1 : 2 * (num % den * k) < den * k ↔ 2 * (num % den) < den := by
    rw [← Nat.mul_assoc]; exact Nat.mul_lt_mul_right h
  have h2 : den * k < 2 * (num % den * k) ↔ den < 2 * (num % den) := by
    rw [← Nat.mul_assoc]; exact Nat.mul_lt_mul_right h
  simp only [roundHalfEven, Nat.mul_div_mul_right _ _ h, Nat.mul_mod_mul_right, h1, h2]

/-- Widening a fraction of units does not change the magnitude nearest to it. -/
theorem nearest_mul (num den : Nat) {k : Nat} (h : 0 < k) :
    nearest (num * k) (den * k) = nearest num den := by
  simp only [nearest, nearestRank, Nat.mul_div_mul_right _ _ h, Nat.mul_right_comm den k,
    roundHalfEven_mul_mul h]

/-- A magnitude is the nearest one to its own units. -/
theorem nearest_units (m : Magnitude) : nearest m.units 1 = m := by
  obtain ⟨r, hr⟩ := m
  simp only [nearest, units, nearestRank_unitsOfRank, Nat.min_eq_left hr]

end Magnitude

end VibeScript
