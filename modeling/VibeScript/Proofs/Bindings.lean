import VibeScript.Proofs.OneLine
import VibeScript.Proofs.Run

/-!
Which names a run has bound, and to what. Of the lines carried out, the last one with a name as its
target has given the name its value (`get?_runFrom_iff`), so a name is bound when it is the target
of a line that was carried out (`isSome_get?_iff`), and then it stays bound. All bound names are
words, and all values and all printed lines lie on one line each (`Tidy.runFrom`).
-/

namespace VibeScript

namespace Statement

/-- The name that a statement gives a value. -/
def target? : Statement → Option Text
  | declare name _ => some name
  | arithmetic _ target _ _ => some target
  | keep name _ => some name
  | shout _ => none
  | grind _ => none
  | compare .. => none

/-- A statement binds its target, and nothing if it has none. -/
theorem target?_eq_of_outcome {scope : Scope} {st : Statement} {o : Outcome}
    (h : st.outcome scope = .ok o) : st.target? = o.binding.map Binding.name := by
  cases st with
  | declare name e =>
    obtain ⟨v, _, h⟩ := exists_of_bind_ok h
    cases h; rfl
  | shout e =>
    simp only [outcome] at h
    split at h
    · cases h; rfl
    · obtain ⟨v, _, h⟩ := exists_of_bind_ok h
      cases h; rfl
  | arithmetic op target source e =>
    obtain ⟨v, _, h⟩ := exists_of_bind_ok h
    obtain ⟨w, _, h⟩ := exists_of_bind_ok h
    obtain ⟨r, _, h⟩ := exists_of_bind_ok h
    cases h; rfl
  | grind e =>
    obtain ⟨v, _, h⟩ := exists_of_bind_ok h
    split at h <;> cases h
    rfl
  | compare name e =>
    obtain ⟨v, _, h⟩ := exists_of_bind_ok h
    obtain ⟨w, _, h⟩ := exists_of_bind_ok h
    cases h; rfl
  | keep name e =>
    obtain ⟨v, _, h⟩ := exists_of_bind_ok h
    cases h; rfl

theorem target?_mem_names {st : Statement} {name : Text} (h : st.target? = some name) :
    name ∈ st.names := by
  cases st <;> simp_all [target?, names]

end Statement

namespace SourceLine

/-- The name that a line gives a value. -/
def target? (l : SourceLine) : Option Text :=
  match Statement.parse l.text with
  | .ok st => st.target?
  | .error _ => none

/-- The binding that a line makes in a scope, if it succeeds and makes one. -/
def binding? (scope : Scope) (l : SourceLine) : Option Binding :=
  match Statement.parse l.text with
  | .ok st =>
    match st.outcome scope with
    | .ok o => o.binding
    | .error _ => none
  | .error _ => none

end SourceLine

theorem Outcome.get?_effect (s : Store) (o : Outcome) (name : Text) :
    (o.effect s).store.get? name =
      match o.binding with
      | some b => if name = b.name then some b.value else s.get? name
      | none => s.get? name := by
  obtain ⟨binding, printed⟩ := o
  cases binding with
  | none => rfl
  | some b => exact Store.get?_bind ..

namespace Context

/-- What a line does that is carried out: it is a statement, and its outcome is taken over. -/
theorem exists_outcome_of_carryOut {s : Store} {l : SourceLine} {effect : Effect}
    (h : carryOut s l = .ok effect) :
    ∃ st o, Statement.parse l.text = .ok st ∧ st.outcome s.get? = .ok o ∧ effect = o.effect s ∧
      l.binding? s.get? = o.binding ∧ l.target? = o.binding.map Binding.name := by
  obtain ⟨st, hp, h⟩ := exists_parse_of_carryOut h
  obtain ⟨o, ho, rfl⟩ := Statement.apply_eq_ok_iff.1 h
  refine ⟨st, o, hp, ho, rfl, ?_, ?_⟩
  · rw [SourceLine.binding?, hp]
    simp only [ho]
  · rw [SourceLine.target?, hp]
    exact Statement.target?_eq_of_outcome ho

/-- A statement with an outcome is carried out. -/
theorem carryOut_eq_ok {s : Store} {l : SourceLine} {st : Statement} {o : Outcome}
    (hp : Statement.parse l.text = .ok st) (ho : st.outcome s.get? = .ok o) :
    carryOut s l = .ok (o.effect s) := by
  rw [carryOut, hp]
  exact Statement.apply_eq_ok_iff.2 ⟨o, ho, rfl⟩

/-! ### Names and values -/

/-- Behind a line that is carried out a name has a value when the line has computed it for that
name, or when the name had it before and is not the target of the line. -/
theorem get?_step_iff {c : Context} (hc : c.failure = none) {l : SourceLine} {effect : Effect}
    (h : carryOut c.store l = .ok effect) (name : Text) (v : Value) :
    (c.step l).store.get? name = some v ↔
      l.binding? c.store.get? = some ⟨name, v⟩ ∨
        c.store.get? name = some v ∧ l.target? ≠ some name := by
  obtain ⟨st, o, _, _, rfl, hbinding, htarget⟩ := exists_outcome_of_carryOut h
  rw [step_ok hc h, hbinding, htarget]
  simp only [Outcome.get?_effect]
  cases o.binding with
  | none => simp
  | some b =>
    obtain ⟨n, w⟩ := b
    by_cases hn : name = n
    · simp [hn]
    · simp [hn, Ne.symm hn]

/-- The value of a name is the one computed by the last line carried out that has it as target, or
the one that it had before if there is no such line. -/
theorem get?_runFrom_iff {c : Context} {ls : List SourceLine} (h : (c.runFrom ls).failure = none)
    (name : Text) (v : Value) :
    (c.runFrom ls).store.get? name = some v ↔
      (∃ before l after, ls = before ++ l :: after ∧
        l.binding? (c.runFrom before).store.get? = some ⟨name, v⟩ ∧
        ∀ m ∈ after, m.target? ≠ some name) ∨
      c.store.get? name = some v ∧ ∀ m ∈ ls, m.target? ≠ some name := by
  induction ls generalizing c with
  | nil => simp
  | cons l ls ih =>
    obtain ⟨hc, effect, heffect⟩ := exists_effect_cons h
    rw [runFrom_cons, ih h, get?_step_iff hc heffect]
    constructor
    · rintro (⟨before, m, after, rfl, hm, hafter⟩ | ⟨hl | ⟨hname, hl⟩, hls⟩)
      · exact .inl ⟨l :: before, m, after, rfl, hm, hafter⟩
      · exact .inl ⟨[], l, ls, rfl, hl, hls⟩
      · exact .inr ⟨hname, List.forall_mem_cons.2 ⟨hl, hls⟩⟩
    · rintro (⟨before, m, after, hsplit, hm, hafter⟩ | ⟨hname, hls⟩)
      · cases before with
        | nil =>
          obtain ⟨rfl, rfl⟩ := List.cons.inj hsplit
          exact .inr ⟨.inl hm, hafter⟩
        | cons k before =>
          obtain ⟨rfl, rfl⟩ := List.cons.inj hsplit
          exact .inl ⟨before, m, after, rfl, hm, hafter⟩
      · obtain ⟨hl, hls⟩ := List.forall_mem_cons.1 hls
        exact .inr ⟨.inr ⟨hname, hl⟩, hls⟩

/-- A name is bound by a line that is carried out and has it as target, or was bound before. -/
theorem isSome_get?_iff {c : Context} {ls : List SourceLine} (h : (c.runFrom ls).failure = none)
    (name : Text) :
    ((c.runFrom ls).store.get? name).isSome ↔
      (∃ l ∈ ls, l.target? = some name) ∨ (c.store.get? name).isSome := by
  induction ls generalizing c with
  | nil => simp
  | cons l ls ih =>
    obtain ⟨hc, effect, heffect⟩ := exists_effect_cons h
    obtain ⟨st, o, _, _, heq, _, htarget⟩ := exists_outcome_of_carryOut heffect
    have hstep : ((c.step l).store.get? name).isSome ↔
        l.target? = some name ∨ (c.store.get? name).isSome := by
      rw [step_ok hc heffect, heq, Outcome.get?_effect, htarget]
      cases o.binding with
      | none => simp
      | some b =>
        by_cases hn : name = b.name
        · simp [hn]
        · simp [hn, Ne.symm hn]
    rw [runFrom_cons, ih h, hstep]
    simp only [List.mem_cons, exists_eq_or_imp, or_assoc]
    exact or_left_comm

/-- From the start on, a name is bound if it is the target of a line that is carried out. -/
theorem isSome_get?_start_iff {ls : List SourceLine} (h : (start.runFrom ls).failure = none)
    (name : Text) :
    ((start.runFrom ls).store.get? name).isSome ↔ ∃ l ∈ ls, l.target? = some name := by
  rw [isSome_get?_iff h name]
  exact or_iff_left Bool.false_ne_true

/-! ### Characters -/

/-- Whether a character is in no value of a state, as it is shown, and in no printed line. -/
structure Lacks (ch : Char) (c : Context) : Prop where
  value : Scope.Lacks ch c.store.get?
  output : ∀ line ∈ c.output, ch ∉ line

variable {ch : Char}

theorem lacks_start (ch : Char) : Lacks ch start where
  value _ _ h := by cases h
  output _ h := by cases h

/-- A line brings in no control character but those of its expression. -/
theorem Lacks.step (hch : ch.toNat < 0x20) {c : Context} (h : c.Lacks ch) {l : SourceLine}
    (hl : ∀ st, Statement.parse l.text = .ok st → ch ∉ st.expression) : (c.step l).Lacks ch := by
  cases hc : c.failure with
  | some f => rw [step_failed hc]; exact h
  | none =>
    rcases step_cases hc l with ⟨effect, heffect, hstep⟩ | ⟨fault, _, hstep⟩
    · obtain ⟨st, o, hp, ho, rfl, hbinding, _⟩ := exists_outcome_of_carryOut heffect
      have hnames (name : Text) (hn : name ∈ st.names) : ch ∉ name :=
        (Text.visible_of_isWord (Statement.isWord_of_parse hp name hn)).not_mem hch
      have hlacks := Statement.lacks_of_outcome hch h.value hnames (hl st hp) ho
      refine ⟨fun name v hv => ?_, fun line hline => ?_⟩
      · rcases (get?_step_iff hc heffect name v).1 hv with hb | ⟨hv, _⟩
        · exact hlacks.bound _ (hbinding ▸ hb)
        · exact h.value name v hv
      · rw [hstep] at hline
        rcases List.mem_append.1 hline with hline | hline
        · exact h.output line hline
        · exact hlacks.printed line hline
    · rw [hstep]
      exact ⟨h.value, h.output⟩

theorem Lacks.runFrom (hch : ch.toNat < 0x20) {c : Context} (h : c.Lacks ch)
    {ls : List SourceLine}
    (hls : ∀ l ∈ ls, ∀ st, Statement.parse l.text = .ok st → ch ∉ st.expression) :
    (c.runFrom ls).Lacks ch := by
  induction ls generalizing c with
  | nil => exact h
  | cons l ls ih =>
    obtain ⟨hl, hls⟩ := List.forall_mem_cons.1 hls
    exact ih (h.step hch hl) hls

/-! ### Words and single lines -/

/-- A state whose names are words and whose values and printed lines lie on one line each. -/
structure Tidy (c : Context) : Prop where
  isWord_name : ∀ name v, c.store.get? name = some v → Text.isWord name = true
  oneLine_value : Scope.OneLine c.store.get?
  oneLine_output : ∀ line ∈ c.output, Text.OneLine line

theorem tidy_start : Tidy start where
  isWord_name _ _ h := by cases h
  oneLine_value _ _ h := by cases h
  oneLine_output _ h := by cases h

/-- No line makes a state untidy. -/
theorem Tidy.step {c : Context} (h : c.Tidy) (l : SourceLine) : (c.step l).Tidy := by
  have hlacks : (c.step l).Lacks '\n' :=
    Lacks.step (by decide) ⟨h.oneLine_value, h.oneLine_output⟩ fun _ => Statement.oneLine_of_parse
  refine ⟨fun name v hv => ?_, hlacks.value, hlacks.output⟩
  cases hc : c.failure with
  | some f =>
    rw [step_failed hc] at hv
    exact h.isWord_name name v hv
  | none =>
    rcases step_cases hc l with ⟨effect, hl, _⟩ | ⟨fault, _, hstep⟩
    · obtain ⟨st, o, hp, ho, rfl, hbinding, _⟩ := exists_outcome_of_carryOut hl
      rcases (get?_step_iff hc hl name v).1 hv with hb | ⟨hv, _⟩
      · have htarget := Statement.target?_eq_of_outcome ho
        rw [← hbinding, hb] at htarget
        exact Statement.isWord_of_parse hp name (Statement.target?_mem_names htarget)
      · exact h.isWord_name name v hv
    · rw [hstep] at hv
      exact h.isWord_name name v hv

/-- No run makes a state untidy. -/
theorem Tidy.runFrom {c : Context} (h : c.Tidy) (ls : List SourceLine) : (c.runFrom ls).Tidy := by
  induction ls generalizing c with
  | nil => exact h
  | cons l ls ih => exact ih (h.step l)

end Context

end VibeScript
