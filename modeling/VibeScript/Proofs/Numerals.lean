import VibeScript.Proofs.Pattern
import VibeScript.Expression

/-!
What an expression may look like, told by patterns: a numeral is an optional sign and then digits,
digits with a point behind, digits with a point inside, or a point and digits; a name is a word; and
a quotation is a text between two quotes. The tests of the program take in the texts of these
patterns and no others (`isNumeral_iff`, `isWord_iff`, `quoted?_eq_some_iff`).

A numeral holds digits, signs and a point only (`chars_of_mem_numeral`), so it is never a quotation.
-/

namespace VibeScript

open scoped Computability

namespace Pattern

/-- Digits, one of them at least. -/
def digits : Language Char := one Char.isDigit * many Char.isDigit

/-- A point. -/
def point : Language Char := oneOf [['.']]

/-- Digits, digits with a point behind or inside, or a point and digits. -/
def unsignedNumeral : Language Char :=
  digits + digits * point + digits * point * digits + point * digits

/-- A numeral, with or without a sign. -/
def numeral : Language Char := (oneOf [['+'], ['-']] + 1) * unsignedNumeral

/-- A name. -/
def name : Language Char := one Text.isWordChar * many Text.isWordChar

/-! ### Membership -/

variable {p : Char → Bool} {t : Text}

/-- A run of characters of one class, one of them at least. -/
theorem mem_one_mul_many : t ∈ one p * many p ↔ t ≠ [] ∧ ∀ c ∈ t, p c = true := by
  cases t with
  | nil =>
    rw [Language.mem_mul]
    constructor
    · rintro ⟨_, ⟨c, _, rfl⟩, v, _, h⟩
      cases h
    · intro h
      exact absurd rfl h.1
  | cons c u => simp

theorem mem_digits : t ∈ digits ↔ t ≠ [] ∧ ∀ c ∈ t, c.isDigit = true := mem_one_mul_many

/-- The ways to put an unsigned numeral together. -/
theorem mem_unsignedNumeral :
    t ∈ unsignedNumeral ↔ t ∈ digits ∨ (∃ ds ∈ digits, t = ds ++ ['.']) ∨
      (∃ ds ∈ digits, ∃ es ∈ digits, t = ds ++ '.' :: es) ∨ ∃ es ∈ digits, t = '.' :: es := by
  have hended : t ∈ digits * point ↔ ∃ ds ∈ digits, t = ds ++ ['.'] := by
    rw [Language.mem_mul]
    constructor
    · rintro ⟨ds, hds, u, hu, rfl⟩
      rw [List.mem_singleton.1 hu]
      exact ⟨ds, hds, rfl⟩
    · rintro ⟨ds, hds, rfl⟩
      exact ⟨ds, hds, _, List.mem_singleton_self _, rfl⟩
  have hdivided : t ∈ digits * point * digits ↔
      ∃ ds ∈ digits, ∃ es ∈ digits, t = ds ++ '.' :: es := by
    rw [mul_assoc, Language.mem_mul]
    constructor
    · rintro ⟨ds, hds, u, hu, rfl⟩
      obtain ⟨es, hes, rfl⟩ := mem_oneOf_singleton_mul.1 hu
      exact ⟨ds, hds, es, hes, rfl⟩
    · rintro ⟨ds, hds, es, hes, rfl⟩
      exact ⟨ds, hds, _, mem_oneOf_singleton_mul.2 ⟨es, hes, rfl⟩, rfl⟩
  rw [unsignedNumeral, Language.mem_add, Language.mem_add, Language.mem_add, hended, hdivided,
    or_assoc, or_assoc]
  exact or_congr_right (or_congr_right (or_congr_right mem_oneOf_singleton_mul))

/-- A numeral is an unsigned one, perhaps behind a sign. -/
theorem mem_numeral :
    t ∈ numeral ↔ (∃ u ∈ unsignedNumeral, t = '+' :: u ∨ t = '-' :: u) ∨ t ∈ unsignedNumeral := by
  rw [numeral, Language.mem_mul]
  constructor
  · rintro ⟨s, hs, u, hu, rfl⟩
    rcases (Language.mem_add _ _ _).1 hs with hs | hs
    · rcases List.mem_pair.1 hs with rfl | rfl
      · exact .inl ⟨u, hu, .inl rfl⟩
      · exact .inl ⟨u, hu, .inr rfl⟩
    · rw [(Language.mem_one _).1 hs]
      exact .inr hu
  · rintro (⟨u, hu, rfl | rfl⟩ | ht)
    · exact ⟨['+'], .inl (List.mem_pair.2 (.inl rfl)), u, hu, rfl⟩
    · exact ⟨['-'], .inl (List.mem_pair.2 (.inr rfl)), u, hu, rfl⟩
    · exact ⟨[], .inr rfl, t, ht, rfl⟩

/-- The characters of unsigned numerals. -/
theorem chars_of_mem_unsignedNumeral (h : t ∈ unsignedNumeral) {c : Char} (hc : c ∈ t) :
    c.isDigit = true ∨ c = '.' := by
  rcases mem_unsignedNumeral.1 h with h | ⟨ds, hds, rfl⟩ | ⟨ds, hds, es, hes, rfl⟩ | ⟨es, hes, rfl⟩
  · exact .inl ((mem_digits.1 h).2 c hc)
  · rcases List.mem_append.1 hc with hc | hc
    · exact .inl ((mem_digits.1 hds).2 c hc)
    · exact .inr (List.mem_singleton.1 hc)
  · rcases List.mem_append.1 hc with hc | hc
    · exact .inl ((mem_digits.1 hds).2 c hc)
    · rcases List.mem_cons.1 hc with rfl | hc
      · exact .inr rfl
      · exact .inl ((mem_digits.1 hes).2 c hc)
  · rcases List.mem_cons.1 hc with rfl | hc
    · exact .inr rfl
    · exact .inl ((mem_digits.1 hes).2 c hc)

/-- The characters of numerals. -/
theorem chars_of_mem_numeral (h : t ∈ numeral) {c : Char} (hc : c ∈ t) :
    c.isDigit = true ∨ c ∈ ['.', '+', '-'] := by
  have hunsigned {u : Text} (hu : u ∈ unsignedNumeral) (hc : c ∈ u) :
      c.isDigit = true ∨ c ∈ ['.', '+', '-'] := by
    rcases chars_of_mem_unsignedNumeral hu hc with hc | rfl
    · exact .inl hc
    · exact .inr (by decide)
  rcases mem_numeral.1 h with ⟨u, hu, rfl | rfl⟩ | ht
  · rcases List.mem_cons.1 hc with rfl | hc
    · exact .inr (by decide)
    · exact hunsigned hu hc
  · rcases List.mem_cons.1 hc with rfl | hc
    · exact .inr (by decide)
    · exact hunsigned hu hc
  · exact hunsigned ht hc

end Pattern

open Pattern

/-! ### Numerals -/

namespace Decimal

variable {t : Text}

/-- What passes as a numeral without a sign is put together as one. -/
theorem mem_of_isUnsignedNumeral (h : isUnsignedNumeral t = true) : t ∈ unsignedNumeral := by
  have hrun : ∀ c ∈ t.takeWhile Char.isDigit, c.isDigit = true :=
    List.all_eq_true.1 List.all_takeWhile
  have hsplit := (List.takeWhile_append_dropWhile (p := Char.isDigit) (l := t)).symm
  generalize t.takeWhile Char.isDigit = ds at hrun hsplit
  rw [mem_unsignedNumeral]
  unfold isUnsignedNumeral at h
  split at h
  case h_1 hrest =>
    rw [hrest, List.append_nil] at hsplit
    subst hsplit
    exact .inl (mem_digits.2 ⟨by simpa using h, hrun⟩)
  case h_2 c fraction hrest =>
    rw [Bool.and_eq_true, Bool.and_eq_true, beq_iff_eq, List.all_eq_true] at h
    obtain ⟨⟨rfl, hfraction⟩, hsome⟩ := h
    rw [hrest] at hsplit
    subst hsplit
    -- Without digits in front the point is the first character, and digits have to follow it.
    cases ds with
    | nil =>
      refine .inr (.inr (.inr ⟨fraction, mem_digits.2 ⟨?_, hfraction⟩, rfl⟩))
      rintro rfl
      cases hsome
    | cons d ds =>
      have hds : d :: ds ∈ Pattern.digits := mem_digits.2 ⟨List.cons_ne_nil d ds, hrun⟩
      cases fraction with
      | nil => exact .inr (.inl ⟨d :: ds, hds, rfl⟩)
      | cons e es =>
        exact .inr (.inr (.inl ⟨d :: ds, hds, e :: es,
          mem_digits.2 ⟨List.cons_ne_nil e es, hfraction⟩, rfl⟩))

/-- What is put together as a numeral without a sign passes as one. -/
theorem isUnsignedNumeral_of_mem (h : t ∈ unsignedNumeral) : isUnsignedNumeral t = true := by
  have hpoint (es : Text) : Text.Stops Char.isDigit ('.' :: es) := Text.stops_cons.2 rfl
  have hhead {ds : Text} (hds : ds ∈ Pattern.digits) (u : Text) :
      ((ds ++ u).head? != some '.') = true := by
    obtain ⟨hne, hall⟩ := mem_digits.1 hds
    obtain ⟨d, ds, rfl⟩ := List.exists_cons_of_ne_nil hne
    rw [List.cons_append, List.head?_cons, bne_iff_ne]
    rintro ⟨⟩
    cases hall '.' List.mem_cons_self
  rcases mem_unsignedNumeral.1 h with h | ⟨ds, hds, rfl⟩ | ⟨ds, hds, es, hes, rfl⟩ | ⟨es, hes, rfl⟩
  · obtain ⟨hne, hall⟩ := mem_digits.1 h
    have hdrop := Text.dropWhile_run hall (t := []) (by simp [Text.Stops])
    rw [List.append_nil] at hdrop
    simpa [isUnsignedNumeral, hdrop] using hne
  · rw [isUnsignedNumeral, Text.dropWhile_run (mem_digits.1 hds).2 (hpoint [])]
    simp only [hhead hds, beq_self_eq_true, List.all_nil, Bool.true_or, Bool.and_self]
  · rw [isUnsignedNumeral, Text.dropWhile_run (mem_digits.1 hds).2 (hpoint es)]
    simp only [hhead hds, beq_self_eq_true, List.all_eq_true.2 (mem_digits.1 hes).2,
      Bool.true_or, Bool.and_self]
  · obtain ⟨hne, hall⟩ := mem_digits.1 hes
    rw [isUnsignedNumeral, (hpoint es).dropWhile_eq_self]
    simpa [hne] using hall

theorem isUnsignedNumeral_iff : isUnsignedNumeral t = true ↔ t ∈ unsignedNumeral :=
  ⟨mem_of_isUnsignedNumeral, isUnsignedNumeral_of_mem⟩

/-- A numeral is what is an unsigned one behind its sign, if it has one. -/
theorem isNumeral_iff : isNumeral t = true ↔ t ∈ numeral := by
  have hsign {u : Text} {c : Char} (hc : c ∈ ['+', '-']) : c :: u ∉ unsignedNumeral := by
    intro hu
    rcases chars_of_mem_unsignedNumeral hu List.mem_cons_self with hdigit | rfl
    · rcases List.mem_pair.1 hc with rfl | rfl <;> cases hdigit
    · cases List.mem_pair.1 hc <;> contradiction
  rw [isNumeral, isUnsignedNumeral_iff, mem_numeral]
  unfold unsigned
  split
  case h_1 u =>
    have hu := hsign (u := u) (c := '+') (by decide)
    simp [hu]
  case h_2 u =>
    have hu := hsign (u := u) (c := '-') (by decide)
    simp [hu]
  case h_3 hplus hminus =>
    constructor
    · exact .inr
    · rintro (⟨u, _, rfl | rfl⟩ | ht)
      · exact absurd rfl (hplus u)
      · exact absurd rfl (hminus u)
      · exact ht

end Decimal

/-! ### Names and quotations -/

theorem Text.isWord_iff {t : Text} : isWord t = true ↔ t ∈ name := by
  rw [name, mem_one_mul_many, isWord, Bool.and_eq_true, List.all_eq_true]
  simp

namespace Expression

variable {t inner : Text}

/-- A quotation is a text with a quote in front and a quote behind. -/
theorem quoted?_eq_some_iff : quoted? t = some inner ↔ t = '"' :: (inner ++ ['"']) := by
  constructor
  · intro h
    unfold quoted? at h
    split at h
    · rename_i rest
      split at h
      · rename_i hlast
        cases h
        obtain ⟨init, rfl⟩ := List.getLast?_eq_some_iff.1 hlast
        rw [List.dropLast_concat]
      · cases h
    · cases h
  · rintro rfl
    rw [quoted?, if_pos (by simp), List.dropLast_concat]

theorem quoted?_eq_none_iff : quoted? t = none ↔ ∀ inner, t ≠ '"' :: (inner ++ ['"']) := by
  rw [Option.eq_none_iff_forall_ne_some]
  exact forall_congr' fun inner => not_congr quoted?_eq_some_iff

/-- A text without a quote is no quotation. -/
theorem quoted?_of_not_mem (h : '"' ∉ t) : quoted? t = none := by
  refine quoted?_eq_none_iff.2 fun inner => ?_
  rintro rfl
  exact h List.mem_cons_self

theorem not_mem_of_mem_numeral (h : t ∈ numeral) : '"' ∉ t := by
  intro hmem
  rcases chars_of_mem_numeral h hmem with hc | hc
  · cases hc
  · exact absurd hc (by decide)

end Expression

end VibeScript
