import VibeScript.Proofs.Controls

/-!
Nothing that a program computes or prints holds a line break. A source is read line by line, so an
expression lies on one line, and no statement brings in a control character. So an outcome lies on
one line if the values in scope do (`oneLine_of_outcome`).
-/

namespace VibeScript

open Text (OneLine)

theorem Text.Visible.oneLine {t : Text} (h : Visible t) : OneLine t := h.not_mem (by decide)

/-- Whether a value is shown on one line. Only strings may fail to be. -/
def Value.OneLine (v : Value) : Prop := Text.OneLine v.text

/-- Whether all values in scope are shown on one line. -/
def Scope.OneLine (scope : Scope) : Prop := ∀ name v, scope name = some v → v.OneLine

/-- Whether what a statement binds and prints lies on one line each. -/
def Outcome.OneLine (o : Outcome) : Prop :=
  (∀ b ∈ o.binding, b.value.OneLine) ∧ ∀ line ∈ o.printed, Text.OneLine line

/-- A statement whose names and expression lie on one line each binds and prints nothing else. -/
theorem Statement.oneLine_of_outcome {scope : Scope} (hscope : scope.OneLine) {st : Statement}
    (hnames : ∀ name ∈ st.names, Text.OneLine name) (he : Text.OneLine st.expression) {o : Outcome}
    (h : st.outcome scope = .ok o) : o.OneLine := by
  have hlacks : o.Lacks '\n' := lacks_of_outcome (by decide) hscope hnames he h
  exact ⟨hlacks.bound, hlacks.printed⟩

end VibeScript
