import VibeScript.Proofs.Cutting
import VibeScript.Token
import Mathlib.Computability.Language

/-!
The kinds of tokens as languages. A kind takes in the texts of its pattern, whatever stands around
them: a pattern is built from classes of characters and from listed texts, one behind the other, in
choice, or over and over. The piece that a rule cuts off is in the pattern of its kind
(`text_mem_ofKind`).

The operators and the reserved words are listed here as the patterns have them; that the rules know
the same ones is part of what is proved.
-/

namespace VibeScript

open scoped Computability

namespace Pattern

/-! ### Patterns -/

/-- The texts of one character that satisfies `p`. -/
def one (p : Char → Bool) : Language Char := {t | ∃ c, p c = true ∧ t = [c]}

/-- The texts of any number of characters that satisfy `p`. -/
def many (p : Char → Bool) : Language Char := (one p)∗

/-- The listed texts. -/
def oneOf (ts : List Text) : Language Char := {t | t ∈ ts}

/-- The operators. -/
def operators : List Text := ["==", "!=", "<=", ">=", "=", "+", "-", "*", "/", "<", ">"]

/-- The words that are not free to be names. -/
def reserved : List Text :=
  ["vibe", "shout", "grind", "add", "sub", "mult", "div", "fr", "same", "keep", "vibing", "high"]

/-- The pattern of a kind. -/
def ofKind : TokenKind → Language Char
  | .whitespace => one Token.isSpace * many Token.isSpace
  | .comment => oneOf [['/', '/']] * many (· != '\n')
  | .string => oneOf [['"']] * many (fun c => c != '"' && c != '\n') * (oneOf [['"']] + 1)
  | .number => one Char.isDigit * many Token.isNumeric
  | .operator => oneOf operators
  | .keyword => oneOf reserved
  | .identifier => one Token.isWordStart * many Text.isWordChar
  | .newline => oneOf [['\n']]
  | .unknown => one (· != '\n')

/-! ### Membership -/

variable {p q : Char → Bool} {c : Char} {t u : Text}

theorem mem_one : t ∈ one p ↔ ∃ c, p c = true ∧ t = [c] := Iff.rfl

@[simp] theorem cons_mem_one : c :: u ∈ one p ↔ p c = true ∧ u = [] := by
  rw [mem_one]
  constructor
  · rintro ⟨d, hd, h⟩
    rw [List.cons.injEq] at h
    rw [h.1]
    exact ⟨hd, h.2⟩
  · rintro ⟨hc, rfl⟩
    exact ⟨c, hc, rfl⟩

@[simp] theorem mem_oneOf {ts : List Text} : t ∈ oneOf ts ↔ t ∈ ts := Iff.rfl

@[simp] theorem mem_many : t ∈ many p ↔ ∀ c ∈ t, p c = true := by
  rw [many, Language.mem_kstar]
  constructor
  · rintro ⟨ts, rfl, hts⟩ c hc
    obtain ⟨s, hs, hcs⟩ := List.mem_flatten.1 hc
    obtain ⟨d, hd, rfl⟩ := hts s hs
    rw [List.mem_singleton.1 hcs]
    exact hd
  · intro ht
    refine ⟨t.map fun c => [c], by rw [← List.flatMap_def, List.flatMap_singleton'], ?_⟩
    intro s hs
    obtain ⟨c, hc, rfl⟩ := List.mem_map.1 hs
    exact ⟨c, ht c hc, rfl⟩

/-- A given text and then more. -/
theorem mem_oneOf_singleton_mul {given : Text} {l : Language Char} :
    t ∈ oneOf [given] * l ↔ ∃ u ∈ l, t = given ++ u := by
  rw [Language.mem_mul]
  constructor
  · rintro ⟨s, hs, u, hu, rfl⟩
    rw [List.mem_singleton.1 hs]
    exact ⟨u, hu, rfl⟩
  · rintro ⟨u, hu, rfl⟩
    exact ⟨given, List.mem_singleton_self _, u, hu, rfl⟩

/-- A character of one class and then any number of another. -/
@[simp] theorem cons_mem_one_mul_many :
    c :: u ∈ one p * many q ↔ p c = true ∧ ∀ d ∈ u, q d = true := by
  rw [Language.mem_mul]
  constructor
  · rintro ⟨_, ⟨d, hd, rfl⟩, v, hv, h⟩
    rw [List.singleton_append, List.cons.injEq] at h
    obtain ⟨rfl, rfl⟩ := h
    exact ⟨hd, mem_many.1 hv⟩
  · rintro ⟨hc, hu⟩
    exact ⟨[c], ⟨c, hc, rfl⟩, u, mem_many.2 hu, rfl⟩

theorem cons_mem_comment :
    c :: u ∈ ofKind .comment ↔ c = '/' ∧ ∃ v, u = '/' :: v ∧ ∀ d ∈ v, d ≠ '\n' := by
  rw [ofKind, mem_oneOf_singleton_mul]
  constructor
  · rintro ⟨v, hv, h⟩
    obtain ⟨rfl, rfl⟩ := List.cons.inj h
    exact ⟨rfl, v, rfl, by simpa using hv⟩
  · rintro ⟨rfl, v, rfl, hv⟩
    exact ⟨v, by simpa using hv, rfl⟩

theorem cons_mem_string :
    c :: u ∈ ofKind .string ↔
      c = '"' ∧ ∃ v, (∀ d ∈ v, (d != '"' && d != '\n') = true) ∧ (u = v ∨ u = v ++ ['"']) := by
  rw [ofKind, mul_assoc, mem_oneOf_singleton_mul]
  constructor
  · rintro ⟨w, hw, h⟩
    obtain ⟨rfl, rfl⟩ := List.cons.inj h
    obtain ⟨v, hv, e, he, rfl⟩ := Language.mem_mul.1 hw
    refine ⟨rfl, v, mem_many.1 hv, ?_⟩
    rcases (Language.mem_add _ _ _).1 he with he | he
    · right
      rw [List.mem_singleton.1 he]
    · left
      rw [(Language.mem_one _).1 he, List.append_nil]
  · rintro ⟨rfl, v, hv, h⟩
    refine ⟨u, ?_, rfl⟩
    rw [Language.mem_mul]
    rcases h with rfl | rfl
    · exact ⟨u, mem_many.2 hv, [], .inr rfl, List.append_nil u⟩
    · exact ⟨v, mem_many.2 hv, ['"'], .inl (List.mem_singleton_self _), rfl⟩

end Pattern

namespace Token

open Pattern

variable {c d : Char} {rest : Text}

/-! ### The rules -/

theorem take_runLength (p : Char → Bool) (t : Text) : t.take (runLength p t) = t.takeWhile p :=
  (List.prefix_iff_eq_take.1 (List.takeWhile_prefix p)).symm

theorem drop_runLength (p : Char → Bool) (t : Text) : t.drop (runLength p t) = t.dropWhile p := by
  have h := List.take_append_drop (runLength p t) t
  rw [take_runLength] at h
  exact List.append_cancel_left (h.trans List.takeWhile_append_dropWhile.symm)

/-- A character of a class is none of the characters outside it. -/
theorem not_mem_of_class {p : Char → Bool} {xs : List Char} (hc : p c = true)
    (hxs : xs.all (fun x => !p x) = true) : c ∉ xs := by
  intro hmem
  have := List.all_eq_true.1 hxs c hmem
  rw [hc] at this
  cases this

theorem isDigit_eq_false_of_isWordStart (h : isWordStart c = true) : c.isDigit = false := by
  rw [Bool.eq_false_iff]
  intro hd
  have hdigit := Text.toNat_of_isDigit hd
  rw [isWordStart, Bool.or_eq_true, beq_iff_eq] at h
  rcases h with h | rfl
  · have := Text.toNat_of_isAlpha h
    omega
  · cases hd

theorem isOperator_iff : isOperator c = true ↔ c ∈ ['=', '+', '-', '*', '/', '<', '>'] := by
  simp [isOperator, or_assoc]

theorem rule_space (h : isSpace c = true) :
    rule c rest = (.whitespace, runLength isSpace rest) := by
  rw [rule, if_pos h]

theorem rule_comment (rest : Text) :
    rule '/' ('/' :: rest) = (.comment, runLength (· != '\n') ('/' :: rest)) := rfl

theorem rule_quote (rest : Text) : rule '"' rest = (.string, stringLength rest) := rfl

theorem rule_digit (h : c.isDigit = true) : rule c rest = (.number, runLength isNumeric rest) := by
  have hc : c ∉ [' ', '\t', '\r', '/', '"'] := not_mem_of_class h (by decide)
  simp only [List.mem_cons, List.not_mem_nil, or_false, not_or] at hc
  simp [rule, isSpace, hc, h]

theorem rule_long (h : isLongOperator c d = true) : rule c (d :: rest) = (.operator, 1) := by
  simp only [isLongOperator, Bool.and_eq_true, Bool.or_eq_true, beq_iff_eq] at h
  rcases h with ⟨rfl, ((rfl | rfl) | rfl) | rfl⟩ <;> rfl

theorem rule_operator (h : isOperator c = true) (hc : c = '/' → rest.head? ≠ some '/') :
    (rule c rest).1 = .operator := by
  fun_cases rule c rest with
  | case1 hspace => exact absurd (isOperator_iff.1 h) (not_mem_of_class hspace (by decide))
  | case2 _ hslashes =>
    rw [Bool.and_eq_true, beq_iff_eq, beq_iff_eq] at hslashes
    exact absurd hslashes.2 (hc hslashes.1)
  | case3 _ _ hquote =>
    rw [beq_iff_eq.1 hquote] at h
    cases h
  | case4 _ _ _ hdigit => exact absurd (isOperator_iff.1 h) (not_mem_of_class hdigit (by decide))
  | case5 | case6 => rfl
  | case7 _ _ _ _ _ hnot => exact absurd h hnot
  | case8 _ _ _ _ _ hnot => exact absurd h hnot
  | case9 _ _ _ _ _ hnot => exact absurd h hnot

theorem rule_word (h : isWordStart c = true) :
    rule c rest =
      (wordKind (c :: rest.takeWhile Text.isWordChar), runLength Text.isWordChar rest) := by
  have hc : c ∉ [' ', '\t', '\r', '/', '"', '=', '+', '-', '*', '<', '>', '!'] :=
    not_mem_of_class h (by decide)
  simp only [List.mem_cons, List.not_mem_nil, or_false, not_or] at hc
  have hlong : isLongOperator c = fun _ => false := by funext d; simp [isLongOperator, hc]
  simp [rule, isSpace, isOperator, hlong, hc, isDigit_eq_false_of_isWordStart h, h, take_runLength]

theorem rule_newline (rest : Text) : rule '\n' rest = (.newline, 0) := by
  have hlong : isLongOperator '\n' = fun _ => false := by funext d; simp [isLongOperator]
  simp [rule, isSpace, isOperator, isWordStart, hlong]

theorem mem_operators_of_isOperator (h : isOperator c = true) : [c] ∈ operators := by
  simp only [isOperator, Bool.or_eq_true, beq_iff_eq] at h
  rcases h with (((((rfl | rfl) | rfl) | rfl) | rfl) | rfl) | rfl <;> decide

theorem mem_operators_of_isLongOperator (h : isLongOperator c d = true) : [c, d] ∈ operators := by
  simp only [isLongOperator, Bool.and_eq_true, Bool.or_eq_true, beq_iff_eq] at h
  rcases h with ⟨rfl, ((rfl | rfl) | rfl) | rfl⟩ <;> decide

/-- What a string takes behind its opening quote: all before the next quote and line break, and the
quote if it comes first. -/
theorem take_stringLength (rest : Text) :
    ∃ v, (∀ d ∈ v, (d != '"' && d != '\n') = true) ∧
      (rest.take (stringLength rest) = v ∨ rest.take (stringLength rest) = v ++ ['"']) := by
  let inner := rest.takeWhile fun d => d != '"' && d != '\n'
  refine ⟨inner, List.all_eq_true.1 List.all_takeWhile, ?_⟩
  simp only [stringLength]
  split
  case isTrue hquote =>
    right
    rw [beq_iff_eq, List.head?_drop] at hquote
    rw [List.take_add_one, hquote, take_runLength]
    rfl
  case isFalse => exact .inl (take_runLength ..)

/-- The rules know the reserved words. -/
theorem mem_keywords_iff {word : Text} : word ∈ keywords ↔ word ∈ reserved := Iff.rfl

theorem wordKind_cases (word : Text) :
    (word ∈ keywords ∧ wordKind word = .keyword) ∨
      (word ∉ keywords ∧ wordKind word = .identifier) := by
  rw [wordKind]
  by_cases h : word ∈ keywords
  · exact .inl ⟨h, if_pos (List.contains_iff_mem.2 h)⟩
  · exact .inr ⟨h, if_neg fun hc => h (List.contains_iff_mem.1 hc)⟩

/-- The piece that a rule cuts off is in the pattern of its kind. -/
theorem text_mem_ofKind (c : Char) (rest : Text) :
    c :: rest.take (rule c rest).2 ∈ ofKind (rule c rest).1 := by
  have hrun (p : Char → Bool) : ∀ d ∈ rest.takeWhile p, p d = true :=
    List.all_eq_true.1 List.all_takeWhile
  fun_cases rule c rest with
  | case1 hspace =>
    rw [take_runLength]
    exact cons_mem_one_mul_many.2 ⟨hspace, hrun _⟩
  | case2 _ hslashes =>
    rw [Bool.and_eq_true, beq_iff_eq, beq_iff_eq] at hslashes
    obtain ⟨rfl, hhead⟩ := hslashes
    obtain ⟨rest, rfl⟩ := List.head?_eq_some_iff.1 hhead
    rw [take_runLength, cons_mem_comment]
    exact ⟨rfl, rest.takeWhile (· != '\n'), rfl, fun d hd => by
      simpa using hrun (· != '\n') d (List.mem_cons_of_mem _ hd)⟩
  | case3 _ _ hquote => exact cons_mem_string.2 ⟨beq_iff_eq.1 hquote, take_stringLength rest⟩
  | case4 _ _ _ hdigit =>
    rw [take_runLength]
    exact cons_mem_one_mul_many.2 ⟨hdigit, hrun _⟩
  | case5 _ _ _ _ hlong =>
    obtain ⟨d, hhead, hd⟩ := (Option.any_eq_true _ _).1 hlong
    obtain ⟨rest, rfl⟩ := List.head?_eq_some_iff.1 hhead
    exact mem_oneOf.2 (mem_operators_of_isLongOperator hd)
  | case6 _ _ _ _ _ hoperator => exact mem_oneOf.2 (mem_operators_of_isOperator hoperator)
  | case7 _ _ _ _ _ _ hword =>
    rw [take_runLength]
    rcases wordKind_cases (c :: rest.takeWhile Text.isWordChar) with ⟨hmem, hkind⟩ | ⟨_, hkind⟩
    · rw [hkind]
      exact mem_oneOf.2 (mem_keywords_iff.1 hmem)
    · rw [hkind]
      exact cons_mem_one_mul_many.2 ⟨hword, hrun _⟩
  | case8 _ _ _ _ _ _ _ hbreak =>
    rw [beq_iff_eq.1 hbreak]
    exact List.mem_singleton_self _
  | case9 _ _ _ _ _ _ _ hbreak => exact ⟨c, by simpa using hbreak, rfl⟩

/-- Every piece of a source is cut off by the rule for its place. -/
theorem exists_rule_of_mem_pieces {source : Text} {piece : Piece} (h : piece ∈ pieces source) :
    ∃ c rest, piece = ⟨(rule c rest).1, c :: rest.take (rule c rest).2⟩ := by
  fun_induction pieces source with
  | case1 => cases h
  | case2 c rest kind n hrule ih =>
    rcases List.mem_cons.1 h with rfl | h
    · exact ⟨c, rest, by rw [hrule]⟩
    · exact ih h

end Token

end VibeScript
