import VibeScript.Proofs.Cutting
import VibeScript.Proofs.Outcome
import VibeScript.Proofs.Reading

/-!
No statement brings in a control character. Words, the texts of numbers and the sentences that
statements print have none (`Visible`), and a string has the characters that its expression or its
operands have. So a control character that is neither in the names and the expression of a statement
nor in a value in scope is in no part of its outcome (`lacks_of_outcome`).
-/

namespace VibeScript

/-- Whether a text has no control character of ASCII. -/
def Text.Visible (t : Text) : Prop := ∀ d ∈ t, 0x20 ≤ d.toNat

open Text (Visible)

namespace Text

variable {s t : Text} {c : Char}

instance (t : Text) : Decidable (Visible t) := List.decidableBAll (fun d : Char => 0x20 ≤ d.toNat) t

theorem Visible.append (hs : Visible s) (ht : Visible t) : Visible (s ++ t) :=
  fun d hd => (List.mem_append.1 hd).elim (hs d) (ht d)

theorem Visible.of_subset (ht : Visible t) (h : s ⊆ t) : Visible s := fun d hd => ht d (h hd)

theorem Visible.not_mem (ht : Visible t) (hc : c.toNat < 0x20) : c ∉ t :=
  fun h => absurd (ht c h) (Nat.not_le.2 hc)

/-- A literal has the characters that it is written with. Stated like this because going through
them takes the kernel far less time than computing them from the literal. -/
theorem visible_toList {u : String} (hu : u = String.ofList t) (ht : Visible t) :
    Visible u.toList := by
  rwa [hu, String.toList_ofList]

theorem visible_of_isWord (h : isWord t = true) : Visible t := by
  intro d hd
  simp only [isWord, Bool.and_eq_true, List.all_eq_true] at h
  have := (toNat_of_isWordChar (h.2 d hd)).1
  omega

/-! ### Numbers -/

theorem visible_ofNat (n : Nat) : Visible (ofNat n) := by
  have hdigit : ∀ k < 10, 0x20 ≤ (digit k).toNat := by decide
  fun_induction ofNat n with
  | case1 n hn => simpa [Visible] using hdigit n hn
  | case2 n hn ih =>
    refine ih.append ?_
    simpa [Visible] using hdigit (n % 10) (Nat.mod_lt n (by decide))

theorem visible_replicate {d : Char} (h : 0x20 ≤ d.toNat) (n : Nat) :
    Visible (List.replicate n d) := by
  intro e he
  rwa [(List.mem_replicate.1 he).2]

end Text

namespace Layout

open Text (visible_ofNat)

theorem visible_places (l : Layout) (d : Decimal) : Visible (l.places d) := by
  have hds := visible_ofNat d.digits
  have hzeros (n : Nat) : Visible (List.replicate n '0') := Text.visible_replicate (by decide) n
  have hpoint : Visible ("." : Text) := by decide
  simp only [places]
  split
  · split
    · exact (hds.append (hzeros _)).append (by decide)
    · exact hds.append (hzeros _)
  · split
    · refine (hds.of_subset (List.take_subset ..)).append ?_
      exact hpoint.append (hds.of_subset (List.drop_subset ..))
    · exact (Visible.append (by decide) (hzeros _)).append hds

theorem visible_scientific (d : Decimal) : Visible (scientific d) := by
  have hds := visible_ofNat d.digits
  unfold scientific
  refine Visible.append ?mantissa (Visible.append (s := ['e']) (by decide) ?power)
  case mantissa =>
    split
    · rename_i first second more heq
      rw [heq] at hds
      simp only [Visible, List.forall_mem_cons] at hds ⊢
      exact ⟨hds.1, by decide, hds.2⟩
    · exact hds
  case power =>
    refine Visible.append (s := [_]) ?_ (visible_ofNat _)
    split <;> decide

theorem visible_signed (l : Layout) (negative : Bool) (m : Magnitude) :
    Visible (l.signed negative m) := by
  have hm : Visible (l.magnitude m) := by
    unfold magnitude
    split
    · exact visible_places _ _
    · split
      · exact visible_places _ _
      · exact visible_scientific _
  unfold signed
  split
  · exact Visible.append (s := ['-']) (by decide) hm
  · exact hm

end Layout

/-- The text of a number has no control character. -/
theorem Number.visible_text (n : Number) : Visible n.text := by
  unfold text
  split
  · decide
  · split
    · exact Layout.visible_signed _ _ _
    · split <;> decide

/-! ### Values -/

variable {c : Char}

namespace Value

theorem not_mem_number (hc : c.toNat < 0x20) (n : Number) : c ∉ (number n).text :=
  n.visible_text.not_mem hc

theorem not_mem_boolean (hc : c.toNat < 0x20) (b : Bool) : c ∉ (boolean b).text := by
  have hvisible : Visible (boolean b).text := by cases b <;> decide
  exact hvisible.not_mem hc

theorem not_mem_numeric (hc : c.toNat < 0x20) {op : Operator} {f : Number → Number → Number}
    {v w r : Value} (h : numeric op f v w = .ok r) : c ∉ r.text := by
  unfold numeric at h
  split at h <;> cases h
  exact not_mem_number hc _

theorem not_mem_add (hc : c.toNat < 0x20) {v w r : Value} (hv : c ∉ v.text) (hw : c ∉ w.text)
    (h : add v w = .ok r) : c ∉ r.text := by
  unfold add at h
  split at h
  · cases h; exact List.not_mem_append hv hw
  · cases h; exact List.not_mem_append hv hw
  · exact not_mem_numeric hc h

/-- Arithmetic brings in no control character. -/
theorem not_mem_calculate (hc : c.toNat < 0x20) {op : Operator} {v w r : Value} (hv : c ∉ v.text)
    (hw : c ∉ w.text) (h : calculate op v w = .ok r) : c ∉ r.text := by
  cases op with
  | add => exact not_mem_add hc hv hw h
  | sub => exact not_mem_numeric hc h
  | mult => exact not_mem_numeric hc h
  | div =>
    simp only [calculate, div] at h
    split at h
    · cases h
    · exact not_mem_numeric hc h

/-- The quotes of a literal are no control characters. -/
theorem not_mem_literal (hc : c.toNat < 0x20) {v : Value} (hv : c ∉ v.text) : c ∉ v.literal := by
  cases v with
  | string s =>
    have hquote : c ∉ ['"'] := Visible.not_mem (by decide) hc
    exact List.not_mem_append (List.not_mem_append (s := ['"']) hquote hv) hquote
  | number n => exact hv
  | boolean b => exact hv

end Value

/-! ### Expressions -/

theorem Expression.quoted?_subset {t inner : Text} (h : quoted? t = some inner) : inner ⊆ t := by
  unfold quoted? at h
  split at h
  · split at h <;> cases h
    intro c hc
    exact List.mem_cons_of_mem _ (List.dropLast_subset _ hc)
  · cases h

theorem Expression.not_mem_literal? (hc : c.toNat < 0x20) {t : Text} (ht : c ∉ t) {v : Value}
    (h : literal? t = some v) : c ∉ v.text := by
  unfold literal? at h
  split at h
  · rename_i inner hinner
    cases h
    exact fun hmem => ht (quoted?_subset hinner hmem)
  · split at h
    · cases h; exact Value.not_mem_number hc _
    · split at h
      · cases h; exact Value.not_mem_boolean hc _
      · split at h <;> cases h
        exact Value.not_mem_boolean hc _

namespace Scope

/-- Whether no value in scope is shown with a character. -/
def Lacks (c : Char) (scope : Scope) : Prop := ∀ name v, scope name = some v → c ∉ v.text

variable {scope : Scope}

theorem not_mem_of_lookup (hscope : scope.Lacks c) {name : Text} {v : Value}
    (h : scope.lookup name = .ok v) : c ∉ v.text := by
  unfold lookup at h
  split at h <;> cases h
  exact hscope _ _ ‹_›

theorem not_mem_of_resolve (hc : c.toNat < 0x20) (hscope : scope.Lacks c) {e : Text} (he : c ∉ e)
    {v : Value} (h : scope.resolve e = .ok v) : c ∉ v.text := by
  unfold resolve at h
  split at h
  · rename_i hliteral
    cases h
    exact Expression.not_mem_literal? hc (fun hmem => he (Text.trim_subset e hmem)) hliteral
  · split at h
    · exact not_mem_of_lookup hscope h
    · cases h

end Scope

/-! ### Statements -/

/-- Whether a character is in no part of what a statement binds and prints. -/
structure Outcome.Lacks (c : Char) (o : Outcome) : Prop where
  bound : ∀ b ∈ o.binding, c ∉ b.value.text
  printed : ∀ line ∈ o.printed, c ∉ line

namespace Statement

theorem visible_roundLine (i : Nat) : Visible (roundLine i) :=
  Visible.append (by decide) (Text.visible_ofNat i)

section

variable (hc : c.toNat < 0x20) {name : Text} (hname : c ∉ name) {v w : Value} (hv : c ∉ v.text)
include hc hname hv

theorem not_mem_verdict (hw : c ∉ w.text) : c ∉ verdict name v w := by
  have given {t : Text} (ht : Visible t) : c ∉ t := ht.not_mem hc
  unfold verdict
  split
  · refine List.not_mem_append (List.not_mem_append (List.not_mem_append ?_ hname) ?_) hw
    · exact given (by decide)
    · exact given (by decide)
  · refine List.not_mem_append (List.not_mem_append (List.not_mem_append (List.not_mem_append
      (List.not_mem_append ?_ hname) ?_) hv) ?_) hw
    · exact given (by decide)
    · exact given (by decide)
    · exact given (by decide)

theorem not_mem_keepLine : c ∉ keepLine name v := by
  have given {t : Text} (ht : Visible t) : c ∉ t := ht.not_mem hc
  refine List.not_mem_append (List.not_mem_append (List.not_mem_append ?_ hname) ?_) hv
  · exact given (by decide)
  · exact given (by decide)

end

/-- A statement without a control character binds and prints none, unless a value in scope has
it. -/
theorem lacks_of_outcome (hc : c.toNat < 0x20) {scope : Scope} (hscope : scope.Lacks c)
    {st : Statement} (hnames : ∀ name ∈ st.names, c ∉ name) (he : c ∉ st.expression) {o : Outcome}
    (h : st.outcome scope = .ok o) : o.Lacks c := by
  cases st with
  | declare name e =>
    obtain ⟨v, hv, h⟩ := exists_of_bind_ok h
    cases h
    exact ⟨by simpa using Scope.not_mem_of_resolve hc hscope he hv, by simp⟩
  | shout e =>
    simp only [outcome] at h
    split at h
    · rename_i inner hinner
      cases h
      have hinner : c ∉ inner := fun hmem => he (Expression.quoted?_subset hinner hmem)
      exact ⟨by simp, by simpa using hinner⟩
    · obtain ⟨v, hv, h⟩ := exists_of_bind_ok h
      cases h
      exact ⟨by simp, by simpa using Scope.not_mem_of_lookup hscope hv⟩
  | arithmetic op target source e =>
    obtain ⟨v, hv, h⟩ := exists_of_bind_ok h
    obtain ⟨w, hw, h⟩ := exists_of_bind_ok h
    obtain ⟨r, hr, h⟩ := exists_of_bind_ok h
    cases h
    have hv := Scope.not_mem_of_lookup hscope hv
    have hw := Scope.not_mem_of_resolve hc hscope he hw
    exact ⟨by simpa using Value.not_mem_calculate hc hv hw hr, by simp⟩
  | grind e =>
    obtain ⟨v, hv, h⟩ := exists_of_bind_ok h
    split at h <;> cases h
    refine ⟨by simp, fun line hline => ?_⟩
    obtain ⟨i, _, rfl⟩ := List.mem_map.1 hline
    exact (visible_roundLine _).not_mem hc
  | compare name e =>
    obtain ⟨v, hv, h⟩ := exists_of_bind_ok h
    obtain ⟨w, hw, h⟩ := exists_of_bind_ok h
    cases h
    have hv := Scope.not_mem_of_lookup hscope hv
    have hw := Scope.not_mem_of_resolve hc hscope he hw
    refine ⟨by simp, ?_⟩
    simpa using not_mem_verdict hc (hnames name (by simp [names])) hv hw
  | keep name e =>
    obtain ⟨v, hv, h⟩ := exists_of_bind_ok h
    cases h
    have hv := Scope.not_mem_of_resolve hc hscope he hv
    refine ⟨by simpa using hv, ?_⟩
    simpa using not_mem_keepLine hc (hnames name (by simp [names])) hv

end Statement

end VibeScript
