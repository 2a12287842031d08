import VibeScript.Proofs.Outcome
import VibeScript.Proofs.ReadBack

/-!
When two values are shown alike. Strings and booleans come back when their literals are resolved, so
no other value has the same literal. The text of a number, with or without a power of ten, reads as
the number (`Layout.read?_signed`), so different magnitudes are written differently. The minus sign
tells numbers of one magnitude apart, unless that is zero; and there the two signs are the same
number.

So a literal shows which value it is of, up to what the language takes for the same
(`shown_alike_iff_same`). The undefined number is left out: it is shown like itself without being
the same.
-/

namespace VibeScript

/-! ### Numbers -/

namespace Layout

variable {l : Layout} {s t : Bool} {m n : Magnitude}

/-- Numbers are written alike if they have one magnitude and one sign, or are both zero. -/
theorem signed_eq_signed_iff (hzero : l.zeroSigned = false) :
    l.signed s m = l.signed t n ↔ m = n ∧ (s = t ∨ m.rank = 0) := by
  constructor
  · intro h
    have hread := l.read?_signed s m
    rw [h, l.read?_signed] at hread
    obtain ⟨hsign, rfl⟩ := Number.signed.inj (Option.some.inj hread)
    refine ⟨rfl, ?_⟩
    by_cases hrank : n.rank = 0
    · exact .inr hrank
    · simp only [hzero, Bool.false_or, bne_iff_ne.2 hrank, Bool.and_true] at hsign
      exact .inl hsign.symm
  · rintro ⟨rfl, rfl | hrank⟩
    · rfl
    · obtain rfl := m.eq_zero_iff.2 hrank
      rw [signed_zero hzero, signed_zero hzero]

end Layout

namespace Number

variable {a b c : Number} {s t : Bool} {m n : Magnitude}

theorem same_signed_iff :
    (signed s m).same (signed t n) = true ↔ m = n ∧ (s = t ∨ m.rank = 0) := by
  simp [same]

theorem same_comm (a b : Number) : a.same b = b.same a := by
  cases a with
  | undefined => cases b <;> rfl
  | signed s m =>
    cases b with
    | undefined => rfl
    | signed t n =>
      rw [Bool.eq_iff_iff, same_signed_iff, same_signed_iff]
      constructor
      · rintro ⟨rfl, h⟩
        exact ⟨rfl, h.imp_left Eq.symm⟩
      · rintro ⟨rfl, h⟩
        exact ⟨rfl, h.imp_left Eq.symm⟩

theorem same_trans (hab : a.same b = true) (hbc : b.same c = true) : a.same c = true := by
  cases a with
  | undefined => cases hab
  | signed s m =>
    cases b with
    | undefined => cases hab
    | signed t n =>
      cases c with
      | undefined => cases hbc
      | signed u k =>
        obtain ⟨rfl, hst⟩ := same_signed_iff.1 hab
        obtain ⟨rfl, htu⟩ := same_signed_iff.1 hbc
        refine same_signed_iff.2 ⟨rfl, ?_⟩
        rcases hst with rfl | hrank
        · exact htu
        · exact .inr hrank

theorem text_of_isFinite (h : m.isFinite = true) : (signed s m).text = shown.signed s m := if_pos h

/-- No finite number is shown like an infinite one. -/
theorem shown_signed_ne_infinite (s t : Bool) (m : Magnitude) :
    shown.signed s m ≠ (infinite t).text := by
  intro h
  have hy : 'y' ∈ shown.signed s m := by
    rw [h]
    cases t <;> decide
  rcases shown.chars_signed s m 'y' hy with hdigit | hmark
  · cases hdigit
  · exact absurd hmark (by decide)

/-- Of the numbers that are defined, those are shown alike that are the same. -/
theorem text_eq_text_iff (ha : a ≠ undefined) (hb : b ≠ undefined) :
    a.text = b.text ↔ a.same b = true := by
  cases a with
  | undefined => exact absurd rfl ha
  | signed s m =>
    cases b with
    | undefined => exact absurd rfl hb
    | signed t n =>
      rw [same_signed_iff]
      by_cases hm : m.isFinite = true
      · by_cases hn : n.isFinite = true
        · rw [text_of_isFinite hm, text_of_isFinite hn]
          exact Layout.signed_eq_signed_iff rfl
        · obtain rfl := n.eq_infinity hn
          rw [text_of_isFinite hm]
          refine iff_of_false (shown_signed_ne_infinite s t m) ?_
          rintro ⟨rfl, _⟩
          exact hn hm
      · obtain rfl := m.eq_infinity hm
        by_cases hn : n.isFinite = true
        · rw [text_of_isFinite hn]
          refine iff_of_false (fun h => shown_signed_ne_infinite t s n h.symm) ?_
          rintro ⟨rfl, _⟩
          exact hm hn
        · obtain rfl := n.eq_infinity hn
          cases s <;> cases t <;> decide

/-- Whether a number is above zero. -/
def IsPositive : Number → Prop
  | undefined => False
  | signed negative m => negative = false ∧ m ≠ .zero

/-- Behind a minus sign stands the text of the opposite number. -/
theorem text_neg (h : a.IsPositive) : a.neg.text = '-' :: a.text := by
  cases a with
  | undefined => cases h
  | signed s m =>
    obtain ⟨rfl, hzero⟩ := h
    by_cases hm : m.isFinite = true
    · have hrank := mt m.eq_zero_iff.2 hzero
      rw [neg, text_of_isFinite hm, text_of_isFinite hm, Layout.signed_of_ne_zero hrank,
        Layout.signed_of_ne_zero hrank]
      rfl
    · obtain rfl := m.eq_infinity hm
      rfl

end Number

/-! ### Values -/

namespace Value

variable {v w x : Value}

theorem same_self_iff_ne (v : Value) : v.same v = true ↔ v ≠ .number .undefined := by
  cases v with
  | number n => exact n.same_self_iff.trans (not_congr (by rw [Value.number.injEq]))
  | string t => simp [same]
  | boolean b => simp [same]

theorem same_comm (v w : Value) : v.same w = w.same v := by
  cases v <;> cases w <;> simp only [same]
  · exact Number.same_comm _ _
  · exact BEq.comm
  · exact BEq.comm

theorem same_trans (hvw : v.same w = true) (hwx : w.same x = true) : v.same x = true := by
  cases v <;> cases w <;> cases x <;> simp only [same, Bool.false_eq_true] at *
  · exact Number.same_trans hvw hwx
  · exact (beq_iff_eq.1 hvw) ▸ hwx
  · exact (beq_iff_eq.1 hvw) ▸ hwx

/-- A string or boolean is alone with its literal. -/
theorem eq_of_literal_eq (hv : v.type ≠ .number) (h : v.literal = w.literal) : v = w := by
  have hback : Store.empty.resolve v.literal = .ok v := by
    refine Store.resolve_of_readBack ?_
    cases v with
    | number n => exact absurd rfl hv
    | string t => exact .string t
    | boolean b => exact .boolean b
  obtain ⟨r, hr⟩ := Store.exists_readBack .empty w
  have heq : r = .ok v := by rw [← hback, h, Store.resolve_of_readBack hr]
  cases hr with
  | string t => cases heq; rfl
  | boolean b => cases heq; rfl
  | zero negative => cases heq; exact absurd rfl hv
  | moderate negative h => cases heq; exact absurd rfl hv
  | extreme negative => cases heq
  | belowAll => cases heq
  | aboveAll => cases heq
  | undefined => cases heq

/-- Of the values but the undefined number, those have one literal that are the same. -/
theorem literal_eq_literal_iff (hv : v ≠ .number .undefined) (hw : w ≠ .number .undefined) :
    v.literal = w.literal ↔ v.same w = true := by
  by_cases hnumbers : v.type = .number ∧ w.type = .number
  · cases v <;> cases w <;> simp only [type, reduceCtorEq, and_self, and_false, false_and]
      at hnumbers
    exact Number.text_eq_text_iff (fun h => hv (congrArg _ h)) fun h => hw (congrArg _ h)
  · constructor
    · intro h
      have heq : v = w := by
        by_cases hvtype : v.type = .number
        · exact (eq_of_literal_eq (fun hwtype => hnumbers ⟨hvtype, hwtype⟩) h.symm).symm
        · exact eq_of_literal_eq hvtype h
      rw [heq]
      exact (same_self_iff_ne w).2 hw
    · intro h
      cases v <;> cases w <;> simp only [same, Bool.false_eq_true, beq_iff_eq] at h
      · exact absurd ⟨rfl, rfl⟩ hnumbers
      · rw [h]
      · rw [h]

end Value

/-! ### What is shown -/

/-- The verdict on two defined numbers goes by what it shows of them. -/
theorem Statement.apply_compare {s : Store} {name e : Text} {a b : Number}
    (hname : s.get? name = some (.number a)) (he : s.resolve e = .ok (.number b))
    (ha : a ≠ .undefined) (hb : b ≠ .undefined) :
    (compare name e).apply s = .ok ⟨s, [
      if a.text = b.text then "Condition true: " ++ name ++ " equals " ++ b.text
      else "Condition false: " ++ name ++ " (" ++ a.text ++ ") does not equal " ++ b.text]⟩ := by
  have hlookup : s.lookup name = .ok (.number a) := by rw [Store.lookup, hname]
  have hverdict : verdict name (.number a) (.number b) =
      if a.text = b.text then "Condition true: " ++ name ++ " equals " ++ b.text
      else "Condition false: " ++ name ++ " (" ++ a.text ++ ") does not equal " ++ b.text := by
    rw [verdict]
    exact if_congr (Number.text_eq_text_iff ha hb).symm rfl rfl
  rw [apply, hlookup, he, ← hverdict]
  rfl

/-- What is shown of two values tells whether they are the same. Two values have one literal if and
only if they are the same, and two numbers have one text if and only if they are, the undefined
number left out; so a comparison of two numbers never tells that they differ and shows one text
twice. Being the same is symmetric and transitive, and only the undefined number is not the same as
itself. A negative number is shown as its opposite behind a minus sign. -/
theorem shown_alike_iff_same :
    (∀ v w : Value, v ≠ .number .undefined → w ≠ .number .undefined →
      (v.same w = true ↔ v.literal = w.literal)) ∧
    (∀ a b : Number, a ≠ .undefined → b ≠ .undefined →
      ((Value.number a).same (.number b) = true ↔ (Value.number a).text = (Value.number b).text)) ∧
    (∀ (s : Store) (name e : Text) (a b : Number), s.get? name = some (.number a) →
      s.resolve e = .ok (.number b) → a ≠ .undefined → b ≠ .undefined →
      (Statement.compare name e).apply s = .ok ⟨s, [
        if a.text = b.text then "Condition true: " ++ name ++ " equals " ++ b.text
        else "Condition false: " ++ name ++ " (" ++ a.text ++ ") does not equal " ++ b.text]⟩) ∧
    (∀ v w : Value, v.same w = true → w.same v = true) ∧
    (∀ v w x : Value, v.same w = true → w.same x = true → v.same x = true) ∧
    (∀ v : Value, v.same v = true ↔ v ≠ .number .undefined) ∧
    ∀ a : Number, a.IsPositive → a.neg.text = '-' :: a.text := by
  refine ⟨fun v w hv hw => (Value.literal_eq_literal_iff hv hw).symm,
    fun a b ha hb => (Number.text_eq_text_iff ha hb).symm,
    fun s name e a b hname he ha hb => Statement.apply_compare hname he ha hb,
    fun v w h => ?_, fun v w x => Value.same_trans, Value.same_self_iff_ne,
    fun a => Number.text_neg⟩
  rwa [Value.same_comm]

/-- The two zeros are the same and shown alike, also in a comparison. The number five is not shown
like the string of that digit, and two neighbours among the large numbers are not shown alike. -/
theorem shown_alike_of_zeros :
    (Value.number (.signedZero true)).literal = (Value.number .zero).literal ∧
    (Value.string "5").literal ≠ (Value.number (.ofNumeral "5")).literal ∧
    (Value.number (.ofNumeral "1000000000000000000000")).text ≠
      (Value.number (.ofNumeral "1000000000000000131072")).text ∧
    (Statement.compare "x" "0").apply (.ofList [("x", .number (.signedZero true))]) =
      .ok ⟨.ofList [("x", .number (.signedZero true))], [("Condition true: x equals 0" : Text)]⟩ ∧
    (Value.number .zero).same (.number (.signedZero true)) = true ∧
    (Value.number .zero).same (.number .zero) = true ∧
    (Number.infinite false).neg.text = '-' :: (Number.infinite false).text := by
  obtain ⟨hliteral, htext, hcompare, hsymm, htrans, _, hneg⟩ := shown_alike_iff_same
  have hzeros : (Value.number (.signedZero true)).same (.number .zero) = true := by decide
  refine ⟨(hliteral _ _ (by decide) (by decide)).1 hzeros,
    mt (hliteral _ _ (by decide) (by decide +kernel)).2 (by decide +kernel),
    mt (htext _ _ (by decide +kernel) (by decide +kernel)).2 (by decide +kernel), ?_,
    hsymm _ _ hzeros, htrans _ _ _ (hsymm _ _ hzeros) hzeros, hneg _ ⟨rfl, by decide⟩⟩
  have hline := hcompare (.ofList [("x", .number (.signedZero true))]) "x" "0" (.signedZero true)
    (.ofNumeral "0") (by rfl) (by decide +kernel) (by decide) (by decide +kernel)
  rw [hline]
  congr 2
  decide +kernel

end VibeScript
