import VibeScript.Toml.Scalar

/-!
TOML strings: on one line or on several, with escapes or as they stand. Each reader starts behind
the opening quotes and gives the string and what follows the closing quotes. Line breaks within a
string stay as they are written, with or without a carriage return.
-/

namespace VibeScript.Toml.Quoted

/-- A string and what follows it. -/
abbrev Reading := Option (Text × Text)

/-- Puts a character in front of the string that is read. -/
def push (c : Char) (r : Reading) : Reading := r.map fun (s, rest) => (c :: s, rest)

/-- Whether a character may stand in a string on one line, and in a comment. -/
def isLineChar (c : Char) : Bool := c == '\t' || (0x20 ≤ c.toNat && c.toNat != 0x7F)

/-- The character that a single letter behind a backslash stands for. -/
def letter? : Char → Option Char
  | 'b' => some '\x08'
  | 't' => some '\t'
  | 'n' => some '\n'
  | 'f' => some '\x0C'
  | 'r' => some '\r'
  | 'e' => some '\x1B'
  | '"' => some '"'
  | '\\' => some '\\'
  | _ => none

/-- The character of a code point given by its hexadecimal digits. -/
def scalar? (digits : Text) : Option Char :=
  let n := Scalar.natural 16 digits
  if digits.all (Scalar.isDigitOf 16) && n.isValidChar then some (Char.ofNat n) else none

/-- The character of an escape, behind its backslash, and what follows it. -/
def escape? : Text → Option (Char × Text)
  | 'u' :: a :: b :: c :: d :: t => (scalar? [a, b, c, d]).map (·, t)
  | 'U' :: a :: b :: c :: d :: e :: f :: g :: h :: t =>
    (scalar? [a, b, c, d, e, f, g, h]).map (·, t)
  | 'x' :: a :: b :: t => (scalar? [a, b]).map (·, t)
  | c :: t => (letter? c).map (·, t)
  | [] => none

/-- An escape takes at least one character. -/
theorem length_of_escape? {t rest : Text} {c : Char} (h : escape? t = some (c, rest)) :
    rest.length < t.length := by
  unfold escape? at h
  split at h <;> simp only [Option.map_eq_some_iff, Prod.mk.injEq, reduceCtorEq] at h
  all_goals
    obtain ⟨_, _, _, rfl⟩ := h
    simp only [List.length_cons]
    omega

/-- A string on one line with escapes. -/
def basic (t : Text) : Reading :=
  match t with
  | [] => none
  | '"' :: rest => some ([], rest)
  | '\\' :: rest =>
    match h : escape? rest with
    | some (c, rest') =>
      have := length_of_escape? h
      push c (basic rest')
    | none => none
  | c :: rest => if isLineChar c then push c (basic rest) else none
termination_by t.length
decreasing_by
  · simp only [List.length_cons]
    omega
  · simp

/-- A string on one line as it stands. -/
def literal : Text → Reading
  | [] => none
  | '\'' :: rest => some ([], rest)
  | c :: rest => if isLineChar c then push c (literal rest) else none

/-- What ends a string on several lines: three quotes, and one or two before them that belong to
the string. -/
def closing? (quote : Char) : Text → Reading
  | a :: b :: c :: d :: e :: t =>
    if a = quote ∧ b = quote ∧ c = quote then
      if d = quote ∧ e = quote then some ([quote, quote], t)
      else if d = quote then some ([quote], e :: t)
      else some ([], d :: e :: t)
    else none
  | [a, b, c, d] =>
    if a = quote ∧ b = quote ∧ c = quote then
      if d = quote then some ([quote], []) else some ([], [d])
    else none
  | [a, b, c] => if a = quote ∧ b = quote ∧ c = quote then some ([], []) else none
  | _ => none

/-- Whether a character is a blank within a line. A carriage return is one as well, since it only
stands before a line break. -/
def isBlank (c : Char) : Bool := c == ' ' || c == '\t' || c == '\r'

/-- Blanks and line breaks, which a backslash at the end of a line skips. -/
def isSkipped (c : Char) : Bool := isBlank c || c == '\n'

/-- Whether a character may stand in a string on several lines. -/
def isLinesChar (c : Char) : Bool := isLineChar c || c == '\r' || c == '\n'

/-- Whether only blanks stand between here and the end of the line. -/
def endsLine (t : Text) : Bool := (t.dropWhile isBlank).head? == some '\n'

/-- What is left of a text without a run at its start is not longer. -/
theorem length_dropWhile_le (p : Char → Bool) (t : Text) : (t.dropWhile p).length ≤ t.length :=
  (List.dropWhile_suffix p).length_le

/-- A string on several lines with escapes. -/
def basicLines (t : Text) : Reading :=
  match closing? '"' t with
  | some r => some r
  | none =>
    match t with
    | [] => none
    | '\\' :: rest =>
      if endsLine rest then basicLines (rest.dropWhile isSkipped)
      else match h : escape? rest with
        | some (c, rest') =>
          have := length_of_escape? h
          push c (basicLines rest')
        | none => none
    | c :: rest => if isLinesChar c then push c (basicLines rest) else none
termination_by t.length
decreasing_by
  · have := length_dropWhile_le isSkipped rest
    simp only [List.length_cons]
    omega
  · simp only [List.length_cons]
    omega
  · simp

/-- A string on several lines as it stands. -/
def literalLines (t : Text) : Reading :=
  match closing? '\'' t with
  | some r => some r
  | none =>
    match t with
    | [] => none
    | c :: rest => if isLinesChar c then push c (literalLines rest) else none

/-- A text without a line break at its very start. -/
def withoutBreak : Text → Text
  | '\n' :: t => t
  | '\r' :: '\n' :: t => t
  | t => t

/-- A string, from its opening quotes on. -/
def read? : Text → Reading
  | '"' :: '"' :: '"' :: t => basicLines (withoutBreak t)
  | '"' :: t => basic t
  | '\'' :: '\'' :: '\'' :: t => literalLines (withoutBreak t)
  | '\'' :: t => literal t
  | _ => none

end VibeScript.Toml.Quoted
