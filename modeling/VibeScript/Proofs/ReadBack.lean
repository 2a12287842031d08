import VibeScript.Proofs.Resolution
import VibeScript.Proofs.Spelling
import VibeScript.Proofs.WrittenNumbers
import Mathlib.Order.Monotone.Basic

/-!
Which values come back when their literals are resolved. Strings and booleans do, and so does a
number that is written with all its places, though zero loses its sign. A number that is written
with a power of ten, or is infinite or undefined, does not: its literal is no numeral, and it stands
for nothing unless it is a name.

`ReadBack` says so value by value, and the resolver finds exactly what it says
(`resolve_literal_iff`). The range of the numbers that come back is told by their units, because
ranks are in the order of units (`Magnitude.unitsOfRank_strictMono`).
-/

namespace VibeScript

open Pattern Expression

/-! ### The range of all places -/

namespace Magnitude

theorem eq_infinity {m : Magnitude} (h : ¬ m.isFinite = true) : m = infinity := by
  obtain ⟨rank, hrank⟩ := m
  have hge : ¬ rank < infinityRank := fun hlt => h (decide_eq_true hlt)
  obtain rfl : rank = infinityRank := by omega
  rfl

theorem unitsOfRank_of_lt {r : Nat} (h : r < binade) : unitsOfRank r = r := if_pos h

/-- The magnitudes of a binade behind the first one. -/
theorem unitsOfRank_binade (n : Nat) {k : Nat} (h : k < binade) :
    unitsOfRank (binade * (n + 1) + k) = (binade + k) * Nat.pow 2 n := by
  have hpos : 0 < binade := by decide
  have hge : ¬ binade * (n + 1) + k < binade := by
    rw [Nat.mul_succ]
    omega
  rw [unitsOfRank, if_neg hge, Nat.mul_add_mod, Nat.mod_eq_of_lt h, Nat.mul_add_div hpos,
    Nat.div_eq_of_lt h, Nat.add_zero, Nat.add_sub_cancel]

/-- Ranks are in the order of units: the steps of a binade are of one width, and its last step leads
to the first magnitude of the next one. -/
theorem unitsOfRank_strictMono : StrictMono unitsOfRank := by
  have hpos : 0 < binade := by decide
  refine strictMono_nat_of_lt_succ fun r => ?_
  have hr := Nat.div_add_mod r binade
  have hk := Nat.mod_lt r hpos
  generalize r % binade = k at hr hk
  generalize r / binade = n at hr
  subst hr
  have hnext : k + 1 = binade ∨ k + 1 < binade := by omega
  cases n with
  | zero =>
    rw [Nat.mul_zero, Nat.zero_add, unitsOfRank_of_lt hk]
    rcases hnext with hlast | hinner
    · have hfirst := unitsOfRank_binade 0 hpos
      rw [Nat.zero_add, Nat.mul_one, Nat.add_zero, Decimal.power_zero, Nat.mul_one] at hfirst
      rw [hlast, hfirst]
      exact hk
    · rw [unitsOfRank_of_lt hinner]
      exact Nat.lt_succ_self k
  | succ n =>
    have hwidth : 0 < Nat.pow 2 n := Decimal.power_pos (by decide) n
    rw [unitsOfRank_binade n hk, Nat.add_assoc]
    rcases hnext with hlast | hinner
    · rw [hlast, ← Nat.mul_succ]
      have hfirst := unitsOfRank_binade (n + 1) hpos
      rw [Nat.add_zero, Nat.add_zero, Decimal.power_succ, Nat.mul_comm _ 2, ← Nat.mul_assoc]
        at hfirst
      rw [hfirst]
      exact Nat.mul_lt_mul_of_pos_right (by omega) hwidth
    · rw [unitsOfRank_binade n hinner]
      exact Nat.mul_lt_mul_of_pos_right (by omega) hwidth

theorem units_lt_units_iff {m n : Magnitude} : m.units < n.units ↔ m.rank < n.rank :=
  unitsOfRank_strictMono.lt_iff_lt

theorem units_le_units_iff {m n : Magnitude} : m.units ≤ n.units ↔ m.rank ≤ n.rank :=
  unitsOfRank_strictMono.le_iff_le

/-- Whether a magnitude is no less than the one nearest to a millionth and less than ten to the
power 21. -/
def Moderate (m : Magnitude) : Prop :=
  (Decimal.mk 1 (-6)).magnitude.units ≤ m.units ∧ m.units < Nat.pow 10 21 * unitsPerOne

/-- Ten to the power 21 is a magnitude. -/
theorem units_large : (Decimal.mk 1 21).magnitude.units = Nat.pow 10 21 * unitsPerOne := by
  decide +kernel

theorem isPlain_shown_iff {m : Magnitude} : Number.shown.isPlain m = true ↔ m.Moderate := by
  rw [Layout.isPlain, Moderate, Bool.and_eq_true, decide_eq_true_eq, decide_eq_true_eq,
    ← units_large, units_le_units_iff, units_lt_units_iff]
  rfl

variable {m : Magnitude}

theorem Moderate.ne_zero (h : m.Moderate) : m.rank ≠ 0 := by
  have hleast := units_le_units_iff.1 h.1
  have hpos : 0 < (Decimal.mk 1 (-6)).magnitude.rank := by decide +kernel
  omega

theorem Moderate.isFinite (h : m.Moderate) : m.isFinite = true := by
  have hlarge := h.2
  rw [← units_large, units_lt_units_iff] at hlarge
  have hfinite : (Decimal.mk 1 21).magnitude.rank < infinityRank := by decide +kernel
  rw [Magnitude.isFinite, decide_eq_true_eq]
  omega

end Magnitude

/-! ### Literals -/

variable {s : Store} {v : Value} {r : Except Fault Value} {t : Text}

/-- The characters of numbers are not blank. -/
theorem Text.trim_of_chars (h : ∀ c ∈ t, c.isDigit = true ∨ c ∈ ['.', '+', '-', 'e']) :
    trim t = t := by
  have hblank : ∀ c ∈ t, isBlank c = false := by
    intro c hc
    rcases h c hc with hdigit | hmark
    · refine isBlank_eq_false_of_isWordChar ?_
      rw [isWordChar, Char.isAlphanum, hdigit, Bool.or_true, Bool.true_or]
    · simp only [List.mem_cons, List.not_mem_nil, or_false] at hmark
      rcases hmark with rfl | rfl | rfl | rfl <;> rfl
  exact trim_eq_self (fun c hc => hblank c (List.mem_of_mem_head? hc))
    fun c hc => hblank c (List.mem_of_getLast? hc)

theorem trim_numeral (h : t ∈ numeral) : Text.trim t = t :=
  Text.trim_of_chars fun _ hc =>
    (chars_of_mem_numeral h hc).imp_right (List.mem_append_left ['e'])

theorem trim_quotation (inner : Text) :
    Text.trim ('"' :: (inner ++ ['"'])) = '"' :: (inner ++ ['"']) := by
  refine Text.trim_eq_self (fun c hc => ?_) fun c hc => ?_
  · cases hc
    decide
  · rw [← List.cons_append, List.getLast?_concat] at hc
    cases hc
    decide

theorem Value.literal_of_isFinite {negative : Bool} {m : Magnitude} (h : m.isFinite = true) :
    (number (.signed negative m)).literal = Number.shown.signed negative m := if_pos h

namespace Store

theorem resolve_of_mem_numeral (h : t ∈ numeral) :
    s.resolve t = .ok (.number (.ofNumeral t)) := by
  rw [resolve_eq_iff, trim_numeral h]
  exact .numeral h

/-- What is written with a power of ten stands for nothing: it is no numeral for its `e`, and no
name for the sign of the power. -/
theorem resolve_of_hasPower (h : Text.HasPower t) : s.resolve t = .error (.unresolved t) := by
  have hchars := h.chars
  obtain ⟨front, sign, power, ht, _, hsign, _⟩ := h
  have he : 'e' ∈ t := ht ▸ List.mem_append_right _ List.mem_cons_self
  have hmem : sign ∈ t :=
    ht ▸ List.mem_append_right _ (List.mem_cons_of_mem _ List.mem_cons_self)
  rw [resolve_eq_iff, Text.trim_of_chars hchars]
  refine .other ?literal ?name
  case name =>
    rw [name, mem_one_mul_many]
    intro hname
    have hword := hname.2 sign hmem
    rcases List.mem_pair.1 hsign with rfl | rfl <;> cases hword
  case literal =>
    rintro (⟨inner, rfl⟩ | hnumeral | rfl | rfl)
    · rcases hchars '"' List.mem_cons_self with hdigit | hlist
      · cases hdigit
      · exact absurd hlist (by decide)
    · rcases chars_of_mem_numeral hnumeral he with hdigit | hlist
      · cases hdigit
      · exact absurd hlist (by decide)
    · rcases List.mem_pair.1 hsign with rfl | rfl <;> exact absurd hmem (by decide)
    · rcases List.mem_pair.1 hsign with rfl | rfl <;> exact absurd hmem (by decide)

end Store

/-- What the literal of a value stands for. -/
inductive ReadBack (s : Store) : Value → Except Fault Value → Prop where
  | string (t : Text) : ReadBack s (.string t) (.ok (.string t))
  | boolean (b : Bool) : ReadBack s (.boolean b) (.ok (.boolean b))
  | zero (negative : Bool) : ReadBack s (.number (.signedZero negative)) (.ok (.number .zero))
  | moderate (negative : Bool) {m : Magnitude} (h : m.Moderate) :
      ReadBack s (.number (.signed negative m)) (.ok (.number (.signed negative m)))
  | extreme (negative : Bool) {m : Magnitude} (hfinite : m.isFinite = true) (hzero : m ≠ .zero)
      (h : ¬ m.Moderate) :
      ReadBack s (.number (.signed negative m))
        (.error (.unresolved (Number.signed negative m).text))
  | belowAll : ReadBack s (.number (.infinite true)) (.error (.unresolved "-Infinity"))
  | aboveAll : ReadBack s (.number (.infinite false)) (s.lookup "Infinity")
  | undefined : ReadBack s (.number .undefined) (s.lookup "NaN")

namespace Store

theorem resolve_of_readBack (h : ReadBack s v r) : s.resolve v.literal = r := by
  cases h with
  | string t =>
    refine resolve_eq_iff.2 ?_
    rw [Value.literal, List.cons_append, trim_quotation]
    exact .quotation t
  | boolean b => cases b <;> rfl
  | zero negative =>
    obtain ⟨hmem, hmagnitude⟩ := Layout.spells_magnitude (l := Number.shown)
      (.inl (Magnitude.eq_zero_iff _ |>.1 rfl))
    rw [Number.signedZero, Value.literal_of_isFinite (by decide), Layout.signed_zero rfl,
      resolve_of_mem_numeral (mem_numeral.2 (.inr hmem)), Number.ofNumeral_unsigned hmem,
      hmagnitude]
    rfl
  | moderate negative h =>
    obtain ⟨hmem, hvalue⟩ := Layout.ofNumeral_signed negative
      (Magnitude.isPlain_shown_iff.2 h) h.ne_zero
    rw [Value.literal_of_isFinite h.isFinite, resolve_of_mem_numeral hmem, hvalue]
  | extreme negative hfinite hzero h =>
    have hpower := Layout.hasPower_signed (l := Number.shown) negative
      (mt Magnitude.isPlain_shown_iff.1 h) (mt (Magnitude.eq_zero_iff _).2 hzero)
    rw [← Value.literal_of_isFinite hfinite] at hpower
    exact resolve_of_hasPower hpower
  | belowAll => rfl
  | aboveAll => rfl
  | undefined => rfl

theorem exists_readBack (s : Store) (v : Value) : ∃ r, ReadBack s v r := by
  cases v with
  | string t => exact ⟨_, .string t⟩
  | boolean b => exact ⟨_, .boolean b⟩
  | number n =>
    cases n with
    | undefined => exact ⟨_, .undefined⟩
    | signed negative m =>
      by_cases hfinite : m.isFinite = true
      · by_cases hzero : m = .zero
        · subst hzero
          exact ⟨_, .zero negative⟩
        · by_cases h : m.Moderate
          · exact ⟨_, .moderate negative h⟩
          · exact ⟨_, .extreme negative hfinite hzero h⟩
      · have hm : m = .infinity := m.eq_infinity hfinite
        subst hm
        cases negative
        · exact ⟨_, .aboveAll⟩
        · exact ⟨_, .belowAll⟩

end Store

/-- The literal of a value stands for what `ReadBack` says, in every store. Strings, booleans and
moderate numbers come back as they were and a zero without its sign. All other literals are no
numerals: those of infinity and of an undefined number are names, and the rest stands for
nothing. -/
theorem resolve_literal_iff (s : Store) (v : Value) (r : Except Fault Value) :
    s.resolve v.literal = r ↔ ReadBack s v r := by
  constructor
  · rintro rfl
    obtain ⟨r, hr⟩ := Store.exists_readBack s v
    rw [Store.resolve_of_readBack hr]
    exact hr
  · exact Store.resolve_of_readBack

/-- Ten to the power 21 is the first number that does not come back. -/
example : Store.empty.resolve (Value.number (.ofNumeral "1000000000000000000000")).literal =
    .error (.unresolved "1e+21") := by decide +kernel

end VibeScript
