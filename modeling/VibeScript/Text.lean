/-!
Text is a list of characters. This file says which characters are blank, how blanks are cut off
both ends of a text, what a word is, how many bytes a text takes in UTF-8, which of two texts comes
first, and how a natural number is written in decimal digits.

Cutting leaves a text that neither starts nor ends with a blank (`head?_trim`, `getLast?_trim`), and
a text without blank ends is left alone (`trim_eq_self`). The order is strict and total
(`not_precedes_self`, `precedes_trans`, `precedes_of_not_precedes`).
-/

namespace VibeScript

/-- A text is the list of its characters, first to last. -/
abbrev Text := List Char

/-- A string literal stands for the list of its characters. -/
scoped instance : Coe String Text := ⟨String.toList⟩

namespace Text

/-! ### Blanks -/

/-- The ranges of the Unicode property White_Space, by code point, both ends included. -/
def blankRanges : List (Nat × Nat) :=
  [(0x09, 0x0D), (0x20, 0x20), (0x85, 0x85), (0xA0, 0xA0), (0x1680, 0x1680), (0x2000, 0x200A),
   (0x2028, 0x2029), (0x202F, 0x202F), (0x205F, 0x205F), (0x3000, 0x3000)]

/-- A character is blank when its code point lies in one of `blankRanges`. -/
def isBlank (c : Char) : Bool :=
  blankRanges.any fun range => range.1 ≤ c.toNat && c.toNat ≤ range.2

/-! ### Cutting blanks off the ends -/

/-- The text from its first character that is not blank. -/
def trimStart (t : Text) : Text := t.dropWhile isBlank

/-- The text without the longest run at its end whose characters all satisfy `p`. -/
def dropEndWhile (p : Char → Bool) (t : Text) : Text := (t.reverse.dropWhile p).reverse

/-- The text up to its last character that is not blank. -/
def trimEnd (t : Text) : Text := dropEndWhile isBlank t

/-- The text without the blanks at its two ends. -/
def trim (t : Text) : Text := trimEnd (trimStart t)

/-- No blank stands at the end of what `trimEnd` leaves. -/
theorem getLast?_trimEnd (t : Text) : ∀ c ∈ (trimEnd t).getLast?, isBlank c = false := by
  intro c hc
  rw [trimEnd, dropEndWhile, List.getLast?_reverse] at hc
  have := List.head?_dropWhile_not isBlank t.reverse
  simp_all

/-- No blank stands at the end of what `trim` leaves. -/
theorem getLast?_trim (t : Text) : ∀ c ∈ (trim t).getLast?, isBlank c = false :=
  getLast?_trimEnd _

/-- What `dropEndWhile` leaves is the beginning of the text. -/
theorem dropEndWhile_prefix (p : Char → Bool) (t : Text) : dropEndWhile p t <+: t := by
  have h : t.reverse.dropWhile p <:+ t.reverse := List.dropWhile_suffix p
  rw [← List.reverse_prefix, List.reverse_reverse] at h
  exact h

/-- No blank stands at the start of what `trim` leaves. -/
theorem head?_trim (t : Text) : ∀ c ∈ (trim t).head?, isBlank c = false := by
  intro c hc
  have hstart := List.head?_dropWhile_not isBlank t
  obtain ⟨rest, hrest⟩ := dropEndWhile_prefix isBlank (trimStart t)
  rw [trim, trimEnd] at hc
  cases hcut : dropEndWhile isBlank (trimStart t) with
  | nil => rw [hcut] at hc; simp at hc
  | cons d ds =>
    rw [hcut] at hc hrest
    have hd : d = c := by simpa using hc
    have : (t.dropWhile isBlank).head? = some d := by rw [← trimStart, ← hrest]; rfl
    rw [this] at hstart
    simpa [hd] using hstart

/-- A text with no blank at either end is left alone. -/
theorem trim_eq_self {t : Text} (hhead : ∀ c ∈ t.head?, isBlank c = false)
    (hlast : ∀ c ∈ t.getLast?, isBlank c = false) : trim t = t := by
  have hs : trimStart t = t := by
    cases t with
    | nil => rfl
    | cons c cs => simp [trimStart, hhead c (by simp)]
  rw [trim, hs, trimEnd, dropEndWhile]
  cases hr : t.reverse with
  | nil => simpa using hr.symm
  | cons c cs =>
    have hc : t.getLast? = some c := by rw [← List.head?_reverse, hr]; rfl
    rw [List.dropWhile_cons_of_neg (by simp [hlast c (by simp [hc])]), ← hr, List.reverse_reverse]

/-! ### Parts -/

/-- The parts of a text between the places where a character stands. -/
def parts (mark : Char) (t : Text) : List Text :=
  t.foldr (fun c parts =>
    if c = mark then [] :: parts
    else match parts with
      | part :: more => (c :: part) :: more
      | [] => [[c]]) [[]]

/-! ### Words -/

/-- The characters of a word: the letters and digits of ASCII and the underscore. -/
def isWordChar (c : Char) : Bool := c.isAlphanum || c == '_'

/-- A word is not empty and holds only word characters. -/
def isWord (t : Text) : Bool := !t.isEmpty && t.all isWordChar

/-! ### Bytes -/

/-- The number of bytes that the text takes in UTF-8. -/
def byteLength (t : Text) : Nat := t.foldr (fun c n => c.utf8Size + n) 0

@[simp] theorem byteLength_nil : byteLength [] = 0 := rfl

@[simp] theorem byteLength_cons (c : Char) (t : Text) :
    byteLength (c :: t) = c.utf8Size + byteLength t := rfl

@[simp] theorem byteLength_append (s t : Text) :
    byteLength (s ++ t) = byteLength s + byteLength t := by
  induction s with
  | nil => simp
  | cons c s ih => simp [ih, Nat.add_assoc]

/-! ### Order -/

/-- Whether a text comes before another: at the first place where they differ it has the smaller
code point, or it ends there. The bytes of the texts in UTF-8 are in the same order. -/
def precedes : Text → Text → Bool
  | _, [] => false
  | [], _ :: _ => true
  | c :: s, d :: t => c.toNat < d.toNat || (c == d && precedes s t)

/-- No text comes before itself. -/
theorem not_precedes_self (s : Text) : precedes s s = false := by
  induction s with
  | nil => rfl
  | cons c s ih => simp [precedes, ih]

/-- What comes before a text comes before all that this text comes before. -/
theorem precedes_trans {s t u : Text} (hst : precedes s t = true) (htu : precedes t u = true) :
    precedes s u = true := by
  induction t generalizing s u with
  | nil => simp [precedes] at hst
  | cons d t ih =>
    cases u with
    | nil => simp [precedes] at htu
    | cons e u =>
      cases s with
      | nil => rfl
      | cons c s =>
        simp only [precedes, Bool.or_eq_true, Bool.and_eq_true, decide_eq_true_eq, beq_iff_eq]
          at hst htu ⊢
        rcases hst with hlt | ⟨rfl, hst⟩ <;> rcases htu with hlt' | ⟨rfl, htu⟩
        · exact .inl (Nat.lt_trans hlt hlt')
        · exact .inl hlt
        · exact .inl hlt'
        · exact .inr ⟨rfl, ih hst htu⟩

/-- Of two different texts one comes before the other. -/
theorem precedes_of_not_precedes {s t : Text} (h : precedes s t = false) (hne : s ≠ t) :
    precedes t s = true := by
  induction t generalizing s with
  | nil =>
    cases s with
    | nil => exact absurd rfl hne
    | cons c s => rfl
  | cons d t ih =>
    cases s with
    | nil => simp [precedes] at h
    | cons c s =>
      simp only [precedes, Bool.or_eq_false_iff, decide_eq_false_iff_not] at h
      simp only [precedes, Bool.or_eq_true, Bool.and_eq_true, decide_eq_true_eq, beq_iff_eq]
      by_cases hcd : d.toNat < c.toNat
      · exact .inl hcd
      · have hc : c = d := Char.toNat_inj.1 (by omega)
        subst hc
        refine .inr ⟨rfl, ih ?_ fun e => hne (e ▸ rfl)⟩
        simpa using h.2

/-! ### Letter case -/

/--
The lower case of a letter, as far as it is an ASCII letter: that of `A` to `Z`, and `k` for the
Kelvin sign. Every other character stays, and no other character has an ASCII lower case.
-/
def lowerChar (c : Char) : Char := if c == '\u212A' then 'k' else c.toLower

/-- The text in lower case, good for comparing with texts of ASCII letters. -/
def lower (t : Text) : Text := t.map lowerChar

/-! ### Natural numbers -/

/-- The decimal digit of a number below ten. -/
def digit (n : Nat) : Char := Char.ofNat ('0'.toNat + n)

/-- The decimal digits of a number, without leading zeros. -/
def ofNat (n : Nat) : Text :=
  if n < 10 then [digit n] else ofNat (n / 10) ++ [digit (n % 10)]

/-- The number that a run of decimal digits stands for. -/
def toNat (t : Text) : Nat := t.foldl (fun n c => 10 * n + (c.toNat - '0'.toNat)) 0

end Text

end VibeScript
