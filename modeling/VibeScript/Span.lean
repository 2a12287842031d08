import VibeScript.Text

/-!
Places in a source: a position counts lines and columns from one and bytes from zero, and a span
lies between two positions. The span of a line is as long as the line has bytes (`length_ofLine`).
-/

namespace VibeScript

/-- A place between two characters of a source. -/
structure Position where
  line : Nat
  column : Nat
  offset : Nat
  deriving DecidableEq, Repr

/-- The start of every source. -/
def Position.start : Position := ⟨1, 1, 0⟩

/-- The place behind a text that stays on one line. -/
def Position.advance (p : Position) (t : Text) : Position :=
  ⟨p.line, p.column + t.length, p.offset + Text.byteLength t⟩

/-- The place behind a line break. -/
def Position.nextLine (p : Position) : Position := ⟨p.line + 1, 1, p.offset + 1⟩

/-- A stretch of a source. -/
structure Span where
  start : Position
  stop : Position
  deriving DecidableEq, Repr

namespace Span

/-- The span that stands for no place. -/
def none : Span := ⟨⟨0, 0, 0⟩, ⟨0, 0, 0⟩⟩

/-- The span of a text that stays on one line. -/
def ofText (p : Position) (t : Text) : Span := ⟨p, p.advance t⟩

/-- The span of the line of a number whose text begins at an offset. -/
def ofLine (number offset : Nat) (t : Text) : Span := ofText ⟨number, 1, offset⟩ t

/-- The number of bytes between the two ends. -/
def length (s : Span) : Nat := s.stop.offset - s.start.offset

/-- Whether no byte lies between the two ends. -/
def isEmpty (s : Span) : Bool := s.length == 0

/-- The span of a line is as long as the line. -/
@[simp] theorem length_ofLine (number offset : Nat) (t : Text) :
    (ofLine number offset t).length = Text.byteLength t := by
  simp [length, ofLine, ofText, Position.advance]

end Span

end VibeScript
