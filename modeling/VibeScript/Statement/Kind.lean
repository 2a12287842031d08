import VibeScript.Text

/-!
The nine kinds of statement. A line's kind is decided by how it begins: each kind has an opening,
and no opening is the beginning of another, so at most one kind fits (`opens_unique`).
-/

namespace VibeScript

/-- The operations of the arithmetic statements. -/
inductive Operator where
  | add
  | sub
  | mult
  | div
  deriving DecidableEq, Repr

/-- The word of an operation. -/
def Operator.word : Operator → Text
  | add => "add"
  | sub => "sub"
  | mult => "mult"
  | div => "div"

/-- What a statement does. -/
inductive StatementKind where
  | declare
  | shout
  | arithmetic (op : Operator)
  | grind
  | compare
  | keep
  deriving DecidableEq, Repr

namespace StatementKind

/-- All kinds, in the order in which a line is tried. -/
def all : List StatementKind :=
  [declare, shout, arithmetic .add, arithmetic .sub, arithmetic .mult, arithmetic .div, grind,
   compare, keep]

/-- Every kind is listed. -/
theorem mem_all (k : StatementKind) : k ∈ all := by
  rcases k with _ | _ | (_ | _ | _ | _) | _ | _ | _ <;> decide

/-- The words with which a statement begins. -/
def keyword : StatementKind → Text
  | declare => "vibe"
  | shout => "shout"
  | arithmetic op => op.word
  | grind => "grind"
  | compare => "fr"
  | keep => "keep vibing"

/-- How a line of a kind begins: its words and a space. -/
def opening (k : StatementKind) : Text := k.keyword ++ [' ']

/-- Whether a line begins as a statement of a kind. -/
def opens (k : StatementKind) (line : Text) : Bool := k.opening.isPrefixOf line

/-- The first kind whose opening the line has. -/
def classify (line : Text) : Option StatementKind := all.find? (opens · line)

/-- No opening is the beginning of another kind's opening. -/
theorem eq_of_opening_isPrefixOf {k l : StatementKind} (h : k.opening.isPrefixOf l.opening = true) :
    k = l := by
  have : ∀ k ∈ all, ∀ l ∈ all, k.opening.isPrefixOf l.opening = true → k = l := by decide
  exact this k (mem_all k) l (mem_all l) h

/-- A line has the opening of one kind at most. -/
theorem opens_unique {k l : StatementKind} {line : Text} (hk : k.opens line = true)
    (hl : l.opens line = true) : k = l := by
  rw [opens, List.isPrefixOf_iff_prefix] at hk hl
  rcases List.prefix_or_prefix_of_prefix hk hl with h | h
  · exact eq_of_opening_isPrefixOf (List.isPrefixOf_iff_prefix.2 h)
  · exact (eq_of_opening_isPrefixOf (List.isPrefixOf_iff_prefix.2 h)).symm

end StatementKind

end VibeScript
