import VibeScript.Proofs.Outcome
import VibeScript.Proofs.ReadBack
import Mathlib.Algebra.Order.Floor.Semiring
import Mathlib.Data.Rat.Floor

/-!
How many rounds a loop has. What a finite number amounts to is a fraction of units
(`Number.amount?`). Where that is not below zero, the loop has as many rounds as the least whole
number that is not below it, up to the largest count that sixty-four bits hold
(`Value.count?_of_countsTo`). No other value counts anything (`Value.count?_of_forall_not`). Each
round prints its own line, so the lines are numbered from one, and the store is left alone
(`rounds_of_amount`).

The limit is out of reach of every run, but not of the numbers: a count of two to the power 64 comes
out one round short (`rounds_fall_short_of_two_pow`).
-/

namespace VibeScript

/-! ### Amounts -/

namespace Magnitude

theorem unitsPerOne_pos : 0 < unitsPerOne := by
  delta unitsPerOne
  exact Decimal.power_pos (by decide) unitPower

theorem units_eq_zero_iff {m : Magnitude} : m.units = 0 ↔ m.rank = 0 := by
  have h := units_le_units_iff (m := m) (n := zero)
  have hzero : zero.units = 0 := by decide
  rwa [hzero, Nat.le_zero, zero, Nat.le_zero] at h

/-- The least whole number that is not below a fraction of units. -/
theorem ceil_units (u : Nat) :
    ⌈(u : ℚ) / unitsPerOne⌉₊ = (u + (unitsPerOne - 1)) / unitsPerOne := by
  have hpos := unitsPerOne_pos
  generalize unitsPerOne = d at hpos
  refine eq_of_forall_ge_iff fun k => ?_
  have hcast : (0 : ℚ) < d := Nat.cast_pos.2 hpos
  rw [Nat.ceil_le, div_le_iff₀ hcast, ← Nat.cast_mul, Nat.cast_le,
    Nat.div_le_iff_le_mul_add_pred hpos, Nat.mul_comm]
  omega

end Magnitude

namespace Number

/-- What a finite number amounts to. -/
def amount? : Number → Option ℚ
  | undefined => none
  | signed negative m =>
    if m.isFinite then some ((signedUnits negative m : ℚ) / unitsPerOne) else none

variable {n : Number} {negative : Bool} {m : Magnitude} {q : ℚ}

theorem amount?_of_isFinite (h : m.isFinite = true) :
    (signed negative m).amount? = some ((signedUnits negative m : ℚ) / unitsPerOne) := if_pos h

/-- An amount is below zero for the negative numbers, but not for a zero. -/
theorem amount_nonneg_iff :
    0 ≤ (signedUnits negative m : ℚ) / unitsPerOne ↔ negative = false ∨ m.rank = 0 := by
  have hpos : (0 : ℚ) < unitsPerOne := Nat.cast_pos.2 Magnitude.unitsPerOne_pos
  rw [le_div_iff₀ hpos, zero_mul, Int.cast_nonneg_iff, ← Magnitude.units_eq_zero_iff, signedUnits]
  cases negative
  · simp
  · simp only [if_true, Bool.true_eq_false, false_or]
    omega

theorem signedUnits_of_nonneg (h : negative = false ∨ m.rank = 0) :
    signedUnits negative m = m.units := by
  rcases h with rfl | hrank
  · rfl
  · rw [← Magnitude.units_eq_zero_iff] at hrank
    rw [signedUnits, hrank]
    split <;> rfl

/-- An amount that is not below zero counts up to the least whole number that is not below it. -/
theorem ceiling?_of_nonneg (hq : n.amount? = some q) (h : 0 ≤ q) : n.ceiling? = some ⌈q⌉₊ := by
  cases n with
  | undefined => cases hq
  | signed negative m =>
    by_cases hm : m.isFinite = true
    · rw [amount?_of_isFinite hm] at hq
      cases hq
      have hsign := amount_nonneg_iff.1 h
      have hcount : (m.isFinite && (!negative || m.rank == 0)) = true := by
        simpa [hm] using hsign
      rw [ceiling?, if_pos hcount, signedUnits_of_nonneg hsign, Int.cast_natCast,
        Magnitude.ceil_units]
    · rw [amount?, if_neg hm] at hq
      cases hq

/-- A number without such an amount counts nothing. -/
theorem ceiling?_of_forall_not (h : ∀ q, n.amount? = some q → ¬ 0 ≤ q) : n.ceiling? = none := by
  cases n with
  | undefined => rfl
  | signed negative m =>
    refine if_neg fun hcount => ?_
    rw [Bool.and_eq_true, Bool.or_eq_true, Bool.not_eq_true', beq_iff_eq] at hcount
    exact h _ (amount?_of_isFinite hcount.1) (amount_nonneg_iff.2 hcount.2)

end Number

/-! ### Counts -/

namespace Value

/-- Whether a value is a number with an amount that is not below zero. -/
def CountsTo (v : Value) (q : ℚ) : Prop := ∃ n, v = number n ∧ n.amount? = some q ∧ 0 ≤ q

variable {v : Value} {q : ℚ}

theorem count?_of_countsTo (h : v.CountsTo q) : v.count? = some (min ⌈q⌉₊ roundLimit) := by
  obtain ⟨n, rfl, hq, hnonneg⟩ := h
  rw [count?, Number.ceiling?_of_nonneg hq hnonneg]
  rfl

/-- A fraction is what its units are of those of one. -/
theorem countsTo_of_units {m : Magnitude} {num den : Nat} (hm : m.isFinite = true) (hden : 0 < den)
    (h : m.units * den = num * unitsPerOne) : (number (.signed false m)).CountsTo (num / den) := by
  have hpos : (0 : ℚ) < unitsPerOne := Nat.cast_pos.2 Magnitude.unitsPerOne_pos
  have heq : (m.units : ℚ) / unitsPerOne = num / den := by
    rw [div_eq_div_iff hpos.ne' (Nat.cast_pos.2 hden).ne', ← Nat.cast_mul, h, Nat.cast_mul]
  refine ⟨_, rfl, (Number.amount?_of_isFinite hm).trans (congrArg some heq), ?_⟩
  exact div_nonneg num.cast_nonneg den.cast_nonneg

theorem count?_of_forall_not (h : ∀ q, ¬ v.CountsTo q) : v.count? = none := by
  cases v with
  | number n =>
    have hnone : n.ceiling? = none :=
      Number.ceiling?_of_forall_not fun q hq hnonneg => h q ⟨n, rfl, hq, hnonneg⟩
    rw [count?, hnone]
    rfl
  | string t => rfl
  | boolean b => rfl

end Value

/-! ### Loops -/

namespace Statement

variable {s : Store} {e : Text} {v : Value} {q : ℚ}

theorem length_roundLines (n : Nat) : (roundLines n).length = n := by
  rw [roundLines, List.length_map, List.length_range]

theorem getElem_roundLines {n i : Nat} (h : i < (roundLines n).length) :
    (roundLines n)[i] = roundLine (i + 1) := by
  simp only [roundLines, List.getElem_map, List.getElem_range]

theorem apply_grind_of_countsTo (he : s.resolve e = .ok v) (h : v.CountsTo q) :
    (grind e).apply s = .ok ⟨s, roundLines (min ⌈q⌉₊ roundLimit)⟩ := by
  rw [apply, he, ok_bind, Value.count?_of_countsTo h]
  rfl

theorem apply_grind_of_forall_not (he : s.resolve e = .ok v) (h : ∀ q, ¬ v.CountsTo q) :
    (grind e).apply s = .error (.badCount v.literal) := by
  rw [apply, he, ok_bind, Value.count?_of_forall_not h]
  rfl

end Statement

theorem roundLimit_eq : roundLimit = 2 ^ 64 - 1 := rfl

/-- A loop over a number that is finite and not below zero succeeds and leaves the store as it was.
It prints as many lines as the least whole number that is not below the number, but no more than
sixty-four bits count, and numbers them from one. A loop over any other value fails, and the fault
shows the value. -/
theorem rounds_of_amount :
    (∀ (s : Store) (e : Text) (v : Value) (q : ℚ), s.resolve e = .ok v → v.CountsTo q →
      ∃ lines, (Statement.grind e).apply s = .ok ⟨s, lines⟩ ∧
        lines.length = min ⌈q⌉₊ (2 ^ 64 - 1) ∧
        ∀ i (h : i < lines.length), lines[i] = "Loop iteration " ++ Text.ofNat (i + 1)) ∧
    ∀ (s : Store) (e : Text) (v : Value), s.resolve e = .ok v → (∀ q, ¬ v.CountsTo q) →
      (Statement.grind e).apply s = .error (.badCount v.literal) := by
  refine ⟨fun s e v q he h => ?_, fun s e v he h => Statement.apply_grind_of_forall_not he h⟩
  refine ⟨_, Statement.apply_grind_of_countsTo he h, ?_, fun i hi => ?_⟩
  · rw [Statement.length_roundLines, roundLimit_eq]
  · exact Statement.getElem_roundLines hi

/-- Two and a half make three rounds, and a string of a digit makes none. -/
theorem rounds_of_two_and_a_half :
    (∃ lines, (Statement.grind "2.5").apply .empty = .ok ⟨.empty, lines⟩ ∧ lines.length = 3 ∧
      lines[2]? = some ("Loop iteration 3" : Text)) ∧
    (Statement.grind "\"3\"").apply .empty = .error (.badCount "\"3\"") := by
  obtain ⟨hcounts, hother⟩ := rounds_of_amount
  constructor
  · have hamount : (Value.number (.ofNumeral "2.5")).CountsTo ((5 : Nat) / (2 : Nat)) :=
      Value.countsTo_of_units (by decide +kernel) (by decide) (by decide +kernel)
    obtain ⟨lines, hlines, hlength, hline⟩ :=
      hcounts .empty "2.5" _ _ (by decide +kernel) hamount
    have hthree : lines.length = 3 := by
      rw [hlength]
      norm_num [Nat.ceil_eq_iff]
    refine ⟨lines, hlines, hthree, ?_⟩
    rw [List.getElem?_eq_getElem (hthree ▸ by decide), hline]
    decide +kernel
  · refine hother .empty _ (.string "3") (by decide +kernel) ?_
    rintro q ⟨n, hn, _⟩
    cases hn

/-- Two to the power 64 is one round short. -/
theorem rounds_fall_short_of_two_pow :
    Store.empty.resolve "18446744073709551616" =
      .ok (.number (.ofNumeral "18446744073709551616")) ∧
    (Value.number (.ofNumeral "18446744073709551616")).CountsTo (2 ^ 64) ∧
    ∃ lines, (Statement.grind "18446744073709551616").apply .empty = .ok ⟨.empty, lines⟩ ∧
      lines.length = 2 ^ 64 - 1 ∧ lines.length ≠ ⌈(2 ^ 64 : ℚ)⌉₊ := by
  have hresolve : Store.empty.resolve "18446744073709551616" =
      .ok (.number (.ofNumeral "18446744073709551616")) := by decide +kernel
  have hcounts : (Value.number (.ofNumeral "18446744073709551616")).CountsTo (2 ^ 64) := by
    have h : (Value.number (.ofNumeral "18446744073709551616")).CountsTo
        ((2 ^ 64 : Nat) / (1 : Nat)) :=
      Value.countsTo_of_units (by decide +kernel) (by decide) (by decide +kernel)
    rwa [Nat.cast_one, div_one, Nat.cast_pow, Nat.cast_ofNat] at h
  have hceil : ⌈(2 ^ 64 : ℚ)⌉₊ = 2 ^ 64 := by norm_num
  refine ⟨hresolve, hcounts, _, Statement.apply_grind_of_countsTo hresolve hcounts, ?_⟩
  rw [Statement.length_roundLines, hceil]
  decide

end VibeScript
