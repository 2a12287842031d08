import VibeScript.Proofs.Lines
import VibeScript.Proofs.Run

/-!
Going on with a program. A source that is continued behind a line break runs as it does alone, and
if it ends well, the rest runs from where it ended (`execute_append_break`). A line does the same
wherever it stands: further down, only the place of its failure is another (`runFrom_shift`).
-/

namespace VibeScript

/-- The same failure further down. -/
def Failure.shift (lines bytes : Nat) (f : Failure) : Failure :=
  ⟨f.line + lines, f.text, f.span.shift lines bytes, f.fault⟩

theorem SourceLine.fail_shift (lines bytes : Nat) (l : SourceLine) (fault : Fault) :
    (l.shift lines bytes).fail fault = (l.fail fault).shift lines bytes := rfl

namespace Context

/-- The same state, with its failure further down. -/
def shift (lines bytes : Nat) (c : Context) : Context :=
  { c with failure := c.failure.map (Failure.shift lines bytes) }

theorem shift_of_ok {c : Context} (hc : c.failure = none) (lines bytes : Nat) :
    c.shift lines bytes = c := by
  obtain ⟨store, output, failure⟩ := c
  cases hc
  rfl

theorem carryOut_shift (s : Store) (lines bytes : Nat) (l : SourceLine) :
    carryOut s (l.shift lines bytes) = carryOut s l := rfl

/-- Lines that stand further down do the same, and fail further down. -/
theorem runFrom_shift {c : Context} (hc : c.failure = none) (lines bytes : Nat)
    (ls : List SourceLine) :
    c.runFrom (ls.map (SourceLine.shift lines bytes)) = (c.runFrom ls).shift lines bytes := by
  induction ls generalizing c with
  | nil => exact (shift_of_ok hc lines bytes).symm
  | cons l ls ih =>
    rw [List.map_cons, runFrom_cons, runFrom_cons]
    rcases step_cases hc l with ⟨effect, hl, hstep⟩ | ⟨fault, hl, hstep⟩
    · rw [step_ok hc ((carryOut_shift ..).trans hl), hstep]
      exact ih rfl
    · rw [step_error hc ((carryOut_shift ..).trans hl), hstep, runFrom_of_failed rfl,
        runFrom_of_failed rfl, SourceLine.fail_shift]
      rfl

end Context

/-- A source that is continued behind a line break ends as it does alone if it fails. Otherwise the
run goes on with the statements of the rest, which stand further down by the lines and the bytes in
front of them. What was printed before stays in front. -/
theorem execute_append_break (a b : Text) :
    execute (a ++ '\n' :: b) =
      (match (execute a).failure with
      | some _ => execute a
      | none => ((execute a).runFrom (Source.statementLines b)).shift
          (a.count '\n' + 1) (Text.byteLength a + 1)) ∧
    (execute a).output <+: (execute (a ++ '\n' :: b)).output := by
  have hrun : execute (a ++ '\n' :: b) = (execute a).runFrom ((Source.statementLines b).map
      (SourceLine.shift (a.count '\n' + 1) (Text.byteLength a + 1))) := by
    rw [execute, Source.statementLines_append_break, Context.runFrom_append]
    rfl
  refine ⟨?_, ?_⟩
  · rw [hrun]
    cases h : (execute a).failure with
    | some f => exact Context.runFrom_of_failed (by rw [h]; rfl) _
    | none => exact Context.runFrom_shift h ..
  · rw [hrun]
    exact Context.output_prefix_runFrom ..

end VibeScript
