import VibeScript.Proofs.Numerals

/-!
What an expression stands for. Quotations, numerals, `true` and `false` are literals, and their
value is the same in every store. A word that is no literal is a name, and stands for what the store
binds it to. All else stands for nothing.

`Resolved` says so form by form, and the resolver finds exactly what it says (`resolve_eq_iff`).
Some literals are words and may be bound as names, such as `5` and `true`; they are literals all the
same.
-/

namespace VibeScript

open Pattern

namespace Expression

/-! ### Forms -/

/-- Whether a text is a literal without quotes. -/
def IsBare (t : Text) : Prop := t ∈ numeral ∨ t = "true" ∨ t = "false"

/-- Whether a text is a literal: what stands between two quotes, or a bare one. -/
def IsLiteral (t : Text) : Prop := (∃ inner, t = '"' :: (inner ++ ['"'])) ∨ IsBare t

/-- Whether a text is looked up in the store: a word that is no literal. -/
def IsName (t : Text) : Prop := t ∈ name ∧ ¬ IsLiteral t

variable {t : Text}

/-- What stands between quotes is no bare literal. -/
theorem not_isBare_quotation (inner : Text) : ¬ IsBare ('"' :: (inner ++ ['"'])) := by
  rintro (h | h | h)
  · exact not_mem_of_mem_numeral h List.mem_cons_self
  · cases h
  · cases h

theorem literal?_of_quotation (inner : Text) :
    literal? ('"' :: (inner ++ ['"'])) = some (.string inner) := by
  rw [literal?, quoted?_eq_some_iff.2 rfl]

theorem literal?_of_mem_numeral (h : t ∈ numeral) :
    literal? t = some (.number (.ofNumeral t)) := by
  rw [literal?, quoted?_of_not_mem (not_mem_of_mem_numeral h)]
  exact if_pos (Decimal.isNumeral_iff.2 h)

/-- A text is a literal if it has a value of its own. -/
theorem literal?_eq_none_iff : literal? t = none ↔ ¬ IsLiteral t := by
  constructor
  · rintro h (⟨inner, rfl⟩ | hnumeral | rfl | rfl)
    · rw [literal?_of_quotation] at h
      cases h
    · rw [literal?_of_mem_numeral hnumeral] at h
      cases h
    · cases h
    · cases h
  · intro h
    simp only [IsLiteral, IsBare, not_or, not_exists] at h
    obtain ⟨hquoted, hnumeral, htrue, hfalse⟩ := h
    rw [literal?, quoted?_eq_none_iff.2 hquoted]
    exact (if_neg (hnumeral ∘ Decimal.isNumeral_iff.1)).trans
      ((if_neg htrue).trans (if_neg hfalse))

end Expression

open Expression

/-- What a text without blanks at its ends stands for in a store. -/
inductive Resolved (s : Store) : Text → Except Fault Value → Prop where
  | quotation (inner : Text) : Resolved s ('"' :: (inner ++ ['"'])) (.ok (.string inner))
  | numeral {t : Text} (h : t ∈ numeral) : Resolved s t (.ok (.number (.ofNumeral t)))
  | yes : Resolved s "true" (.ok (.boolean true))
  | no : Resolved s "false" (.ok (.boolean false))
  | bound {t : Text} {v : Value} (hname : IsName t) (h : s.get? t = some v) : Resolved s t (.ok v)
  | unbound {t : Text} (hname : IsName t) (h : s.get? t = none) :
      Resolved s t (.error (.unbound t))
  | other {t : Text} (hliteral : ¬ IsLiteral t) (hname : t ∉ name) :
      Resolved s t (.error (.unresolved t))

namespace Store

variable {s : Store} {t e : Text} {r : Except Fault Value}

/-! ### Resolving -/

theorem resolveTrimmed_of_literal {v : Value} (h : literal? t = some v) :
    s.resolveTrimmed t = .ok v := by
  rw [resolveTrimmed, h]

theorem resolveTrimmed_of_isName (h : IsName t) : s.resolveTrimmed t = s.lookup t := by
  rw [resolveTrimmed, literal?_eq_none_iff.2 h.2]
  exact if_pos (Text.isWord_iff.2 h.1)

theorem resolveTrimmed_of_other (hliteral : ¬ IsLiteral t) (hname : t ∉ name) :
    s.resolveTrimmed t = .error (.unresolved t) := by
  rw [resolveTrimmed, literal?_eq_none_iff.2 hliteral]
  exact if_neg (hname ∘ Text.isWord_iff.1)

/-- What a text stands for is what the resolver finds. -/
theorem resolveTrimmed_of_resolved (h : Resolved s t r) : s.resolveTrimmed t = r := by
  cases h with
  | quotation inner => exact resolveTrimmed_of_literal (literal?_of_quotation inner)
  | numeral h => exact resolveTrimmed_of_literal (literal?_of_mem_numeral h)
  | yes => rfl
  | no => rfl
  | bound hname h => rw [resolveTrimmed_of_isName hname, lookup, h]
  | unbound hname h => rw [resolveTrimmed_of_isName hname, lookup, h]
  | other hliteral hname => exact resolveTrimmed_of_other hliteral hname

/-- Every text stands for something, if only for a fault. -/
theorem exists_resolved (s : Store) (t : Text) : ∃ r, Resolved s t r := by
  by_cases hliteral : IsLiteral t
  · rcases hliteral with ⟨inner, rfl⟩ | hnumeral | rfl | rfl
    · exact ⟨_, .quotation inner⟩
    · exact ⟨_, .numeral hnumeral⟩
    · exact ⟨_, .yes⟩
    · exact ⟨_, .no⟩
  · by_cases hname : t ∈ name
    · cases h : s.get? t with
      | none => exact ⟨_, .unbound ⟨hname, hliteral⟩ h⟩
      | some v => exact ⟨_, .bound ⟨hname, hliteral⟩ h⟩
    · exact ⟨_, .other hliteral hname⟩

/-- The resolver finds what the text behind the blanks stands for. -/
theorem resolve_eq_iff : s.resolve e = r ↔ Resolved s (Text.trim e) r := by
  rw [resolve]
  constructor
  · rintro rfl
    obtain ⟨r, hr⟩ := exists_resolved s (Text.trim e)
    rw [resolveTrimmed_of_resolved hr]
    exact hr
  · exact resolveTrimmed_of_resolved

end Store

/-- An expression is decided by its text and one binding at most. Without the blanks at its ends it
is a quotation, a numeral, a boolean, a name or nothing, and stands for what its form says. A
literal stands for one value in all stores, also where a name is spelled like it; and stores that
bind the text alike, or both do not bind it, resolve the expression alike. -/
theorem resolve_by_text :
    (∀ (s : Store) (e : Text) (r : Except Fault Value),
      s.resolve e = r ↔ Resolved s (Text.trim e) r) ∧
    (∀ e : Text, IsLiteral (Text.trim e) → ∃ v : Value, ∀ s : Store, s.resolve e = .ok v) ∧
    ∀ (s s' : Store) (e : Text), s.get? (Text.trim e) = s'.get? (Text.trim e) →
      s.resolve e = s'.resolve e := by
  refine ⟨fun s e r => Store.resolve_eq_iff, fun e he => ?_,
    fun s s' e h => Store.resolve_eq_of_get?_eq h⟩
  cases h : literal? (Text.trim e) with
  | none => exact absurd he (literal?_eq_none_iff.1 h)
  | some v => exact ⟨v, fun s => Store.resolveTrimmed_of_literal h⟩

/-- The numeral five stands for a number in a store that binds the name five to a string, and a
store that has only the binding of a name is as good as one with more. -/
theorem resolve_five_beside_name_five :
    IsLiteral (Text.trim " 5 ") ∧
    (∃ v, (Store.ofList [("5", .string "a")]).resolve " 5 " = .ok v ∧
      Store.empty.resolve " 5 " = .ok v) ∧
    (Store.ofList [("5", .string "a"), ("x", .boolean true)]).resolve "x" =
      (Store.ofList [("x", .boolean true)]).resolve "x" := by
  obtain ⟨_, hliteral, hbinding⟩ := resolve_by_text
  have hfive : IsLiteral (Text.trim " 5 ") :=
    .inr (.inl (Decimal.isNumeral_iff.1 (by decide +kernel)))
  obtain ⟨v, hv⟩ := hliteral _ hfive
  exact ⟨hfive, ⟨v, hv _, hv _⟩, hbinding _ _ _ (by decide +kernel)⟩

end VibeScript
