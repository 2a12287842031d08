import VibeScript.Fault

/-!
Statements and how a line is read as one. A line is read from left to right: its opening decides
the kind, words and gaps follow as the kind prescribes, and what remains is an expression. A gap is
a run of blanks, and an expression is what stands between the blanks at its two ends; it lies on one
line, so only the blanks before it may hold a line break.

Whatever is read has the kind that its opening announces (`kind_of_parse`).
-/

namespace VibeScript

/-- A statement. -/
inductive Statement where
  /-- Gives a name the value of an expression. -/
  | declare (name expression : Text)
  /-- Prints a quoted text or the value of a name. -/
  | shout (expression : Text)
  /-- Gives `target` the result of an operation on the value of `source` and of an expression. -/
  | arithmetic (op : Operator) (target source expression : Text)
  /-- Prints as many lines as an expression counts. -/
  | grind (count : Text)
  /-- Prints whether a name has the value of an expression. -/
  | compare (name expression : Text)
  /-- Gives a name the value of an expression and prints it. -/
  | keep (name expression : Text)
  deriving DecidableEq, Repr

namespace Statement

/-- What a statement does. -/
def kind : Statement → StatementKind
  | declare .. => .declare
  | shout _ => .shout
  | arithmetic op .. => .arithmetic op
  | grind _ => .grind
  | compare .. => .compare
  | keep .. => .keep

/-! ### The parts of a line -/

/-- What follows a gap, at the start of a text that begins with one. -/
def afterGap? : Text → Option Text
  | [] => none
  | c :: rest => if Text.isBlank c then some (rest.dropWhile Text.isBlank) else none

/-- The word at the start of a text and what follows it. -/
def word? (t : Text) : Option (Text × Text) :=
  match t.takeWhile Text.isWordChar with
  | [] => none
  | word => some (word, t.dropWhile Text.isWordChar)

/-- What follows a given text at the start of another. -/
def after? (given t : Text) : Option Text :=
  if given.isPrefixOf t then some (t.drop given.length) else none

/--
The expression that a text holds behind optional blanks. The expression may be all blank: it is
then empty, and one blank other than a line break has to be there to stand for it.
-/
def expression? (t : Text) : Option Text :=
  match t.dropWhile Text.isBlank with
  | [] => if t.getLast?.any (· != '\n') then some [] else none
  | rest => if rest.contains '\n' then none else some (Text.trimEnd rest)

/-- The expression that a text holds behind a gap. -/
def gapExpression? : Text → Option Text
  | [] => none
  | c :: rest => if Text.isBlank c then expression? rest else none

/-- The name at the start of a text, behind a gap, and what follows it. -/
def gapWord? (t : Text) : Option (Text × Text) := (afterGap? t).bind word?

/-! ### The shapes of the kinds -/

/-- Reads what stands behind the words of a kind. -/
def shape? : StatementKind → Text → Option Statement
  | .declare, t => do
    let (name, t) ← gapWord? t
    let t ← after? "=" (t.dropWhile Text.isBlank)
    let expression ← expression? t
    return declare name expression
  | .shout, t => shout <$> gapExpression? t
  | .arithmetic op, t => do
    let (target, t) ← gapWord? t
    let (source, t) ← gapWord? t
    let expression ← gapExpression? t
    return arithmetic op target source expression
  | .grind, t => grind <$> gapExpression? t
  | .compare, t => do
    let (name, t) ← gapWord? t
    let t ← afterGap? t
    let t ← after? "same" t
    let expression ← gapExpression? t
    return compare name expression
  | .keep, t => do
    let (name, t) ← gapWord? t
    let t ← afterGap? t
    let t ← after? "high" t
    let expression ← gapExpression? t
    return keep name expression

/-- Reads a line as a statement. -/
def parse (line : Text) : Except Fault Statement :=
  match StatementKind.classify line with
  | none => .error (.malformed none line)
  | some kind =>
    match shape? kind (line.drop kind.keyword.length) with
    | none => .error (.malformed (some kind) line)
    | some statement => .ok statement

/-- A shape holds statements of its kind only. -/
theorem kind_of_shape? {k : StatementKind} {t : Text} {s : Statement} (h : shape? k t = some s) :
    s.kind = k := by
  cases k <;>
    simp only [shape?, Option.map_eq_map, Option.map_eq_some_iff, Option.bind_eq_bind,
      Option.bind_eq_some_iff, Option.pure_def, Option.some.injEq, Prod.exists] at h
  case declare => obtain ⟨_, _, _, _, _, _, _, rfl⟩ := h; rfl
  case shout => obtain ⟨_, _, rfl⟩ := h; rfl
  case arithmetic => obtain ⟨_, _, _, _, _, _, _, _, rfl⟩ := h; rfl
  case grind => obtain ⟨_, _, rfl⟩ := h; rfl
  case compare => obtain ⟨_, _, _, _, _, _, _, _, _, rfl⟩ := h; rfl
  case keep => obtain ⟨_, _, _, _, _, _, _, _, _, rfl⟩ := h; rfl

/-- A line that can be read has the kind of what is read. -/
theorem kind_of_parse {line : Text} {s : Statement} (h : parse line = .ok s) :
    StatementKind.classify line = some s.kind := by
  unfold parse at h
  split at h
  case h_1 => cases h
  case h_2 kind hkind =>
    split at h
    case h_1 => cases h
    case h_2 found hfound =>
      cases h
      rw [hkind, kind_of_shape? hfound]

end Statement

end VibeScript
