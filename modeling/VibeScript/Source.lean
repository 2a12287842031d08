import VibeScript.Span

/-!
The lines of a source. A line ends at a line break or at the end of the source; the carriage returns
before a line break do not belong to its text. Each line knows its number and its span.

`physicalLines` splits and `place` counts: the lines of a source, each closed by a line break, are
the source itself, but for a line break that it may lack at its end (`flatMap_physicalLines`).
-/

namespace VibeScript

/-- One line of a source. -/
structure SourceLine where
  number : Nat
  raw : Text
  span : Span
  deriving DecidableEq, Repr

namespace SourceLine

/-- The text of the line without the blanks at its ends. -/
def text (l : SourceLine) : Text := Text.trim l.raw

/-- Whether the line begins with a space or a tab. -/
def isIndented (l : SourceLine) : Bool :=
  match l.raw with
  | c :: _ => c == ' ' || c == '\t'
  | [] => false

/-- Whether a text is a comment. -/
def isComment (t : Text) : Bool := ['/', '/'].isPrefixOf t

/-- Whether the line holds a statement: it is neither blank nor a comment. -/
def isStatement (l : SourceLine) : Bool := !l.text.isEmpty && !isComment l.text

end SourceLine

namespace Source

/-- Puts a character in front of the lines of what follows it. -/
def pushFront (c : Char) (lines : List Text) : List Text :=
  if c = '\n' then [] :: lines
  else match lines with
    | [] => [[c]]
    | line :: more => (c :: line) :: more

/-- The lines of a source, without the line breaks that end them. -/
def physicalLines (source : Text) : List Text := source.foldr pushFront []

/-- The text of a line, without the carriage returns at its end. -/
def withoutReturns (line : Text) : Text := Text.dropEndWhile (· == '\r') line

/-- Numbers lines and finds their spans, from a number and an offset on. -/
def place (number offset : Nat) : List Text → List SourceLine
  | [] => []
  | line :: more =>
    let raw := withoutReturns line
    ⟨number, raw, .ofLine number offset raw⟩ ::
      place (number + 1) (offset + Text.byteLength line + 1) more

/-- The lines of a source. -/
def lines (source : Text) : List SourceLine := place 1 0 (physicalLines source)

/-- The lines of a source that hold statements. -/
def statementLines (source : Text) : List SourceLine :=
  (lines source).filter SourceLine.isStatement

/-- The lines of a source, each closed by a line break, are the source, closed by one. -/
theorem flatMap_physicalLines (source : Text) :
    (physicalLines source).flatMap (· ++ ['\n']) =
      if source.getLast?.all (· == '\n') then source else source ++ ['\n'] := by
  induction source with
  | nil => rfl
  | cons c cs ih =>
    have hcons : physicalLines (c :: cs) = pushFront c (physicalLines cs) := rfl
    rw [hcons]
    unfold pushFront
    cases cs with
    | nil => by_cases hc : c = '\n' <;> simp [physicalLines, hc]
    | cons d ds =>
      have hlast : (c :: d :: ds).getLast? = (d :: ds).getLast? := by simp [List.getLast?_cons_cons]
      rw [hlast]
      split
      case isTrue hc => rw [List.flatMap_cons, ih, hc]; split <;> rfl
      case isFalse hc =>
        cases hlines : physicalLines (d :: ds) with
        | nil =>
          rw [hlines] at ih
          simp only [List.flatMap_nil] at ih
          split at ih <;> simp at ih
        | cons l ls =>
          rw [hlines] at ih
          simp only [List.flatMap_cons, List.cons_append] at ih ⊢
          rw [ih]
          split <;> rfl

end Source

end VibeScript
