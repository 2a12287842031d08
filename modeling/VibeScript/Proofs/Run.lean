import VibeScript.Execution

/-!
How a run goes: line after line, up to the first one that fails.

A line either succeeds, and its effect is taken over, or it fails, and nothing but the failure is
noted (`step_cases`). So a run that fails breaks off at one line: all lines before it succeed, it
fails in the state that they lead to, and the lines behind it are left over (`exists_break`,
`runFrom_break`). The lines that a run carries out are `carried`; they alone make up its store and
its output (`runFrom_carried`).
-/

namespace VibeScript

namespace Context

/-! ### One line -/

theorem step_failed {c : Context} {f : Failure} (hc : c.failure = some f) (l : SourceLine) :
    c.step l = c := by
  simp only [step, hc]

theorem step_ok {c : Context} (hc : c.failure = none) {l : SourceLine} {effect : Effect}
    (h : carryOut c.store l = .ok effect) :
    c.step l = ⟨effect.store, c.output ++ effect.printed, none⟩ := by
  simp only [step, hc, h]

theorem step_error {c : Context} (hc : c.failure = none) {l : SourceLine} {fault : Fault}
    (h : carryOut c.store l = .error fault) :
    c.step l = { c with failure := some (l.fail fault) } := by
  simp only [step, hc, h]

/-- All that one line can do to a run that has not failed. -/
theorem step_cases {c : Context} (hc : c.failure = none) (l : SourceLine) :
    (∃ effect, carryOut c.store l = .ok effect ∧
      c.step l = ⟨effect.store, c.output ++ effect.printed, none⟩) ∨
    (∃ fault, carryOut c.store l = .error fault ∧
      c.step l = { c with failure := some (l.fail fault) }) := by
  cases h : carryOut c.store l with
  | ok effect => exact .inl ⟨effect, rfl, step_ok hc h⟩
  | error fault => exact .inr ⟨fault, rfl, step_error hc h⟩

@[simp] theorem runFrom_nil (c : Context) : c.runFrom [] = c := rfl

@[simp] theorem runFrom_cons (c : Context) (l : SourceLine) (ls : List SourceLine) :
    c.runFrom (l :: ls) = (c.step l).runFrom ls := rfl

/-- What a run comes to without failure it has come to without failure. -/
theorem failure_eq_none_of_runFrom {c : Context} {ls : List SourceLine}
    (h : (c.runFrom ls).failure = none) : c.failure = none := by
  cases hc : c.failure with
  | none => rfl
  | some f =>
    rw [runFrom_of_failed (by rw [hc]; rfl), hc] at h
    exact h

/-! ### The line at which a run breaks off -/

/-- A run that comes to a line that fails keeps what it has, and leaves the other lines over. -/
theorem runFrom_break {c : Context} {before : List SourceLine} {l : SourceLine} {fault : Fault}
    (hok : (c.runFrom before).failure = none)
    (h : carryOut (c.runFrom before).store l = .error fault) (after : List SourceLine) :
    c.runFrom (before ++ l :: after) =
      { c.runFrom before with failure := some (l.fail fault) } := by
  rw [runFrom_append, runFrom_cons, step_error hok h]
  exact runFrom_of_failed rfl after

/-- A run that fails does so at one line, and all lines before that succeed. -/
theorem exists_break {c : Context} (hc : c.failure = none) {ls : List SourceLine} {f : Failure}
    (hf : (c.runFrom ls).failure = some f) :
    ∃ before l after fault, ls = before ++ l :: after ∧ (c.runFrom before).failure = none ∧
      carryOut (c.runFrom before).store l = .error fault ∧ f = l.fail fault := by
  induction ls generalizing c with
  | nil => rw [runFrom_nil, hc] at hf; cases hf
  | cons l ls ih =>
    rcases step_cases hc l with ⟨effect, hl, hstep⟩ | ⟨fault, hl, hstep⟩
    · rw [runFrom_cons] at hf
      obtain ⟨before, m, after, fault, hls, hok, hm, hfm⟩ := ih (by rw [hstep]) hf
      exact ⟨l :: before, m, after, fault, by rw [hls]; rfl, hok, hm, hfm⟩
    · refine ⟨[], l, ls, fault, rfl, hc, hl, ?_⟩
      rw [runFrom_cons, hstep, runFrom_of_failed rfl] at hf
      exact (Option.some.inj hf).symm

/-- The first line of a run without failure succeeds. -/
theorem exists_effect_cons {c : Context} {l : SourceLine} {ls : List SourceLine}
    (h : (c.runFrom (l :: ls)).failure = none) :
    c.failure = none ∧ ∃ effect, carryOut c.store l = .ok effect := by
  have hc := failure_eq_none_of_runFrom h
  refine ⟨hc, ?_⟩
  rcases step_cases hc l with ⟨effect, hl, _⟩ | ⟨fault, _, hstep⟩
  · exact ⟨effect, hl⟩
  · rw [runFrom_cons, hstep, runFrom_of_failed rfl] at h
    cases h

/-- A line that is carried out is a statement. -/
theorem exists_parse_of_carryOut {s : Store} {l : SourceLine} {effect : Effect}
    (h : carryOut s l = .ok effect) :
    ∃ statement, Statement.parse l.text = .ok statement ∧ statement.apply s = .ok effect := by
  cases hp : Statement.parse l.text with
  | error fault => rw [carryOut, hp] at h; cases h
  | ok statement => rw [carryOut, hp] at h; exact ⟨statement, rfl, h⟩

/-- In a run without failure every line is a statement. -/
theorem exists_parse_of_mem {c : Context} {ls : List SourceLine}
    (h : (c.runFrom ls).failure = none) {l : SourceLine} (hl : l ∈ ls) :
    ∃ statement, Statement.parse l.text = .ok statement := by
  obtain ⟨before, after, rfl⟩ := List.append_of_mem hl
  rw [runFrom_append] at h
  obtain ⟨_, effect, heffect⟩ := exists_effect_cons h
  obtain ⟨statement, hp, _⟩ := exists_parse_of_carryOut heffect
  exact ⟨statement, hp⟩

/-- What has been printed stays printed. -/
theorem output_prefix_runFrom (c : Context) (ls : List SourceLine) :
    c.output <+: (c.runFrom ls).output := by
  induction ls generalizing c with
  | nil => exact List.prefix_rfl
  | cons l ls ih =>
    rw [runFrom_cons]
    refine List.IsPrefix.trans ?_ (ih (c.step l))
    cases hc : c.failure with
    | some f => exact ⟨[], by rw [step_failed hc, List.append_nil]⟩
    | none =>
      rcases step_cases hc l with ⟨effect, _, hstep⟩ | ⟨fault, _, hstep⟩
      · exact ⟨effect.printed, by rw [hstep]⟩
      · exact ⟨[], by rw [hstep, List.append_nil]⟩

/-! ### The lines that are carried out -/

/-- The lines that a run carries out: all up to the first that fails. -/
def carried (c : Context) : List SourceLine → List SourceLine
  | [] => []
  | l :: ls => if (c.step l).isOk then l :: (c.step l).carried ls else []

/-- The lines that a run carries out end well, with the store and the output of the whole run. -/
theorem runFrom_carried {c : Context} (hc : c.failure = none) (ls : List SourceLine) :
    c.runFrom (c.carried ls) = { c.runFrom ls with failure := none } := by
  induction ls generalizing c with
  | nil => rw [carried, runFrom_nil, ← hc]
  | cons l ls ih =>
    rw [carried, runFrom_cons]
    rcases step_cases hc l with ⟨effect, _, hstep⟩ | ⟨fault, _, hstep⟩
    · rw [if_pos (by rw [hstep]; rfl), runFrom_cons]
      exact ih (by rw [hstep])
    · rw [if_neg (by rw [hstep]; exact Bool.false_ne_true), runFrom_nil, hstep,
        runFrom_of_failed rfl, ← hc]

end Context

end VibeScript
