import VibeScript.Proofs.Outcome
import VibeScript.Proofs.Resolution

/-!
What an arithmetic statement comes to. Its source has to be bound and its expression has to have a
value, in this order. Of the two values, a zero divisor is found first, whatever is to be divided.
Then the types decide: numbers are computed with, a string on either side of an addition joins the
texts of both sides, and all else is a mismatch.

`Calculated` and `ArithmeticEnd` say so case by case, each case with all that the earlier ones leave
over, and a statement comes to exactly what they say (`arithmetic_ends_iff`). What succeeds gives
the target a number or a string and changes nothing else.
-/

namespace VibeScript

/-- What an operation does to two numbers. -/
def Operator.compute : Operator → Number → Number → Number
  | add => Number.add
  | sub => Number.sub
  | mult => Number.mul
  | div => Number.div

namespace Value

/-! ### Two values -/

/-- Whether an operation is a division by a zero, of either sign. -/
def DividesByZero (op : Operator) (w : Value) : Prop :=
  op = .div ∧ ∃ negative, w = number (.signedZero negative)

/-- Whether the types of two values do not go with an operation. An addition without a string takes
no boolean; all other operations take numbers only. -/
def Mismatched (v w : Value) : Operator → Prop
  | .add => v.type ≠ .string ∧ w.type ≠ .string ∧ (v.type = .boolean ∨ w.type = .boolean)
  | .sub | .mult | .div => v.type ≠ .number ∨ w.type ≠ .number

/-- What an operation on two values comes to. -/
inductive Calculated (op : Operator) : Value → Value → Except Fault Value → Prop where
  | zeroDivisor {v w : Value} (h : DividesByZero op w) :
      Calculated op v w (.error .divisionByZero)
  | mismatch {v w : Value} (hzero : ¬ DividesByZero op w) (h : Mismatched v w op) :
      Calculated op v w (.error (.mismatch op v.type w.type))
  | number {a b : Number} (hzero : ¬ DividesByZero op (number b)) :
      Calculated op (number a) (number b) (.ok (number (op.compute a b)))
  | joined {v w : Value} (hop : op = .add) (h : v.type = .string ∨ w.type = .string) :
      Calculated op v w (.ok (string (v.text ++ w.text)))

variable {op : Operator} {f : Number → Number → Number} {v w : Value} {r : Except Fault Value}

theorem isZero_iff : w.isZero = true ↔ ∃ negative, w = number (.signedZero negative) := by
  cases w with
  | number n =>
    cases n with
    | undefined => simp [isZero, Number.isZero, Number.signedZero]
    | signed negative m =>
      obtain ⟨rank, hrank⟩ := m
      simp [isZero, Number.isZero, Number.signedZero, Magnitude.zero]
  | string t => simp [isZero]
  | boolean b => simp [isZero]

theorem exists_number_of_type (h : v.type = .number) : ∃ n, v = number n := by
  cases v with
  | number n => exact ⟨n, rfl⟩
  | string t => cases h
  | boolean b => cases h

theorem numeric_of_ne (h : v.type ≠ .number ∨ w.type ≠ .number) :
    numeric op f v w = .error (.mismatch op v.type w.type) := by
  unfold numeric
  split
  · rcases h with h | h <;> exact absurd rfl h
  · rfl

theorem add_of_string (h : v.type = .string ∨ w.type = .string) :
    add v w = .ok (string (v.text ++ w.text)) := by
  cases v with
  | string s => rfl
  | number a =>
    cases w with
    | string t => rfl
    | number b => rcases h with h | h <;> cases h
    | boolean b => rcases h with h | h <;> cases h
  | boolean a =>
    cases w with
    | string t => rfl
    | number b => rcases h with h | h <;> cases h
    | boolean b => rcases h with h | h <;> cases h

theorem add_of_ne (hv : v.type ≠ .string) (hw : w.type ≠ .string) :
    add v w = numeric .add Number.add v w := by
  unfold add
  split
  · exact absurd rfl hv
  · exact absurd rfl hw
  · rfl

theorem div_of_not_dividesByZero (h : ¬ DividesByZero .div w) :
    div v w = numeric .div Number.div v w :=
  if_neg fun hzero => h ⟨rfl, isZero_iff.1 hzero⟩

/-- Numbers are computed with, unless one of them is a zero divisor. -/
theorem calculate_number {a b : Number} (h : ¬ DividesByZero op (number b)) :
    calculate op (number a) (number b) = .ok (number (op.compute a b)) := by
  cases op with
  | add => rfl
  | sub => rfl
  | mult => rfl
  | div => exact div_of_not_dividesByZero h

theorem calculate_mismatch (hzero : ¬ DividesByZero op w) (h : Mismatched v w op) :
    calculate op v w = .error (.mismatch op v.type w.type) := by
  cases op with
  | add =>
    obtain ⟨hv, hw, hboolean⟩ := h
    refine (add_of_ne hv hw).trans (numeric_of_ne ?_)
    rcases hboolean with h | h
    · exact .inl (by rw [h]; decide)
    · exact .inr (by rw [h]; decide)
  | sub => exact numeric_of_ne h
  | mult => exact numeric_of_ne h
  | div => exact (div_of_not_dividesByZero hzero).trans (numeric_of_ne h)

theorem calculate_of_calculated (h : Calculated op v w r) : calculate op v w = r := by
  cases h with
  | zeroDivisor h =>
    obtain ⟨rfl, hzero⟩ := h
    exact if_pos (isZero_iff.2 hzero)
  | mismatch hzero h => exact calculate_mismatch hzero h
  | number hzero => exact calculate_number hzero
  | joined hop h =>
    subst hop
    exact add_of_string h

/-- Two values that are not both numbers either do not go with an operation or are joined. -/
theorem mismatched_or_joined (h : v.type ≠ .number ∨ w.type ≠ .number) (op : Operator) :
    Mismatched v w op ∨ op = .add ∧ (v.type = .string ∨ w.type = .string) := by
  cases op with
  | add =>
    by_cases hstring : v.type = .string ∨ w.type = .string
    · exact .inr ⟨rfl, hstring⟩
    · rw [not_or] at hstring
      refine .inl ⟨hstring.1, hstring.2, ?_⟩
      revert h hstring
      cases v.type <;> cases w.type <;> simp
  | sub => exact .inl h
  | mult => exact .inl h
  | div => exact .inl h

/-- Every operation on two values comes to something. -/
theorem exists_calculated (op : Operator) (v w : Value) : ∃ r, Calculated op v w r := by
  by_cases hzero : DividesByZero op w
  · exact ⟨_, .zeroDivisor hzero⟩
  · by_cases hnumbers : v.type ≠ .number ∨ w.type ≠ .number
    · rcases mismatched_or_joined hnumbers op with h | ⟨hop, h⟩
      · exact ⟨_, .mismatch hzero h⟩
      · exact ⟨_, .joined hop h⟩
    · rw [not_or, ne_eq, ne_eq, not_not, not_not] at hnumbers
      obtain ⟨a, rfl⟩ := exists_number_of_type hnumbers.1
      obtain ⟨b, rfl⟩ := exists_number_of_type hnumbers.2
      exact ⟨_, .number hzero⟩

/-- An operation comes to what `Calculated` says. -/
theorem calculate_eq_iff : calculate op v w = r ↔ Calculated op v w r := by
  constructor
  · rintro rfl
    obtain ⟨r, hr⟩ := exists_calculated op v w
    rw [calculate_of_calculated hr]
    exact hr
  · exact calculate_of_calculated

end Value

/-! ### Statements -/

/-- How an arithmetic statement ends. -/
inductive ArithmeticEnd (s : Store) (op : Operator) (target source expression : Text) :
    Except Fault Effect → Prop where
  | unbound (h : s.get? source = none) :
      ArithmeticEnd s op target source expression (.error (.unbound source))
  | unresolved {v : Value} {f : Fault} (hv : s.get? source = some v)
      (h : s.resolve expression = .error f) :
      ArithmeticEnd s op target source expression (.error f)
  | failed {v w : Value} {f : Fault} (hv : s.get? source = some v)
      (hw : s.resolve expression = .ok w) (h : Value.Calculated op v w (.error f)) :
      ArithmeticEnd s op target source expression (.error f)
  | bound {v w r : Value} (hv : s.get? source = some v) (hw : s.resolve expression = .ok w)
      (h : Value.Calculated op v w (.ok r)) :
      ArithmeticEnd s op target source expression (.ok ⟨s.bind target r, []⟩)

namespace Statement

variable {s : Store} {op : Operator} {target source e : Text} {r : Except Fault Effect}
  {effect : Effect}

theorem exists_arithmeticEnd (s : Store) (op : Operator) (target source e : Text) :
    ∃ r, ArithmeticEnd s op target source e r := by
  cases hv : s.get? source with
  | none => exact ⟨_, .unbound hv⟩
  | some v =>
    cases hw : s.resolve e with
    | error f => exact ⟨_, .unresolved hv hw⟩
    | ok w =>
      obtain ⟨r, hr⟩ := Value.exists_calculated op v w
      cases r with
      | error f => exact ⟨_, .failed hv hw hr⟩
      | ok r => exact ⟨_, .bound hv hw hr⟩

theorem apply_of_arithmeticEnd (h : ArithmeticEnd s op target source e r) :
    (arithmetic op target source e).apply s = r := by
  rw [apply, Store.lookup]
  cases h with
  | unbound h => rw [h]; rfl
  | unresolved hv h => rw [hv, h]; rfl
  | failed hv hw h => rw [hv, hw, ok_bind, ok_bind, Value.calculate_of_calculated h]; rfl
  | bound hv hw h => rw [hv, hw, ok_bind, ok_bind, Value.calculate_of_calculated h]; rfl

/-- An arithmetic statement ends as `ArithmeticEnd` says. -/
theorem apply_arithmetic_iff :
    (arithmetic op target source e).apply s = r ↔ ArithmeticEnd s op target source e r := by
  constructor
  · rintro rfl
    obtain ⟨r, hr⟩ := exists_arithmeticEnd s op target source e
    rw [apply_of_arithmeticEnd hr]
    exact hr
  · exact apply_of_arithmeticEnd

/-- An arithmetic statement that succeeds has bound its target to what was calculated. -/
theorem exists_calculated_of_apply (h : (arithmetic op target source e).apply s = .ok effect) :
    ∃ v w r, s.get? source = some v ∧ s.resolve e = .ok w ∧
      Value.Calculated op v w (.ok r) ∧ effect = ⟨s.bind target r, []⟩ := by
  cases apply_arithmetic_iff.1 h with
  | bound hv hw hr => exact ⟨_, _, _, hv, hw, hr, rfl⟩

end Statement

/-- An arithmetic statement ends in exactly one way. If its source is unbound, it fails with that;
if its expression has no value, with the fault of the expression; then with a division by zero, if
it is one; then with a mismatch, if the types do not go with the operation; and else it succeeds. It
then prints nothing and binds its target alone, to a number or a string and never to a boolean. A
division that succeeds had no zero to divide by. -/
theorem arithmetic_ends_iff :
    (∀ (s : Store) (op : Operator) (target source e : Text) (r : Except Fault Effect),
      (Statement.arithmetic op target source e).apply s = r ↔
        ArithmeticEnd s op target source e r) ∧
    (∀ (s : Store) (op : Operator) (target source e : Text) (effect : Effect),
      (Statement.arithmetic op target source e).apply s = .ok effect →
      effect.printed = [] ∧
      (∀ name, name ≠ target → effect.store.get? name = s.get? name) ∧
      ∃ r, effect.store.get? target = some r ∧ r.type ≠ .boolean) ∧
    ∀ (s : Store) (target source e : Text) (effect : Effect),
      (Statement.arithmetic .div target source e).apply s = .ok effect →
      ∀ negative, s.resolve e ≠ .ok (.number (.signedZero negative)) := by
  refine ⟨fun s op target source e r => Statement.apply_arithmetic_iff,
    fun s op target source e effect h => ?_, fun s target source e effect h negative hzero => ?_⟩
  · obtain ⟨v, w, r, _, _, hr, rfl⟩ := Statement.exists_calculated_of_apply h
    refine ⟨rfl, fun name hname => ?_, r, ?_, Value.type_calculate (Value.calculate_eq_iff.2 hr)⟩
    · exact (s.get?_bind target r name).trans (if_neg hname)
    · exact (s.get?_bind target r target).trans (if_pos rfl)
  · obtain ⟨v, w, r, _, hw, hr, _⟩ := Statement.exists_calculated_of_apply h
    obtain rfl := Except.ok.inj (hw.symm.trans hzero)
    cases hr with
    | number hno => exact hno ⟨rfl, negative, rfl⟩
    | joined hop => cases hop

/-- A string is added to itself. Divided by the negative zero it is a division by zero and no
mismatch, and divided by two it is a mismatch. -/
theorem arithmetic_ends_for_string :
    (∃ effect, (Statement.arithmetic .add "x" "x" "x").apply (.ofList [("x", .string "a")]) =
        .ok effect ∧
      effect.store.get? "x" = some (.string "aa") ∧ effect.printed = [] ∧
      effect.store.get? "y" = none) ∧
    (Statement.arithmetic .div "y" "x" "-0").apply (.ofList [("x", .string "a")]) =
      .error .divisionByZero ∧
    (Statement.arithmetic .div "y" "x" "2").apply (.ofList [("x", .string "a")]) =
      .error (.mismatch .div .string .number) ∧
    (Store.ofList [("x", .number (.ofNumeral "6"))]).resolve "2" ≠
      .ok (.number (.signedZero true)) := by
  obtain ⟨hends, hsuccess, hdivisor⟩ := arithmetic_ends_iff
  have htwo : Store.resolve (.ofList [("x", .string "a")]) "2" =
      .ok (.number (.ofNumeral "2")) := by decide +kernel
  refine ⟨?sum, ?zero, ?mismatch, ?quotient⟩
  case sum =>
    have hsum := (hends (.ofList [("x", .string "a")]) .add "x" "x" "x" _).2
      (.bound (v := .string "a") (w := .string "a") (by rfl) (by decide +kernel)
        (.joined rfl (.inl rfl)))
    obtain ⟨hprinted, hothers, _⟩ := hsuccess _ _ _ _ _ _ hsum
    exact ⟨_, hsum, by decide +kernel, hprinted, hothers "y" (by decide)⟩
  case zero =>
    refine (hends _ _ _ _ _ _).2 (.failed (v := .string "a") (w := .number (.signedZero true))
      (by rfl) (by decide +kernel) (.zeroDivisor ⟨rfl, true, rfl⟩))
  case mismatch =>
    refine (hends _ _ _ _ _ _).2 (.failed (v := .string "a") (w := .number (.ofNumeral "2"))
      (by rfl) htwo (.mismatch ?_ (.inl (by decide))))
    exact fun h => absurd (Value.isZero_iff.2 h.2) (by decide +kernel)
  case quotient =>
    exact hdivisor _ "y" "x" "2" _ ((hends _ _ _ _ _ _).2
      (.bound (v := .number (.ofNumeral "6")) (w := .number (.ofNumeral "2")) (by decide +kernel)
        (by decide +kernel) (.number fun h =>
          absurd (Value.isZero_iff.2 h.2) (by decide +kernel)))) true

end VibeScript
