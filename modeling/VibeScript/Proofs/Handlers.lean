import VibeScript.Proofs.Lines
import VibeScript.Proofs.Outcome
import VibeScript.Proofs.Run

/-!
Statements as handlers that work on the session of a run: they look names up, print lines and bind
names one after the other, and where they fail, all that they did before stays done. Each is written
out in the order of its steps, so that a line printed or a name bound too early would be seen.

None of them does anything before its last step that can fail: a handler that fails leaves the
session as it found it, and one that succeeds leaves the outcome of its statement (`run_handle`).
Going on with a line is running its handler and keeping whatever session it leaves
(`runLines_eq_runFrom`). So a run that fails has done what the source in front of the failing line
does, and nothing behind that line matters (`failure_leaves_no_trace`).
-/

namespace VibeScript

/-- What a handler works on: the store and the output of a run. -/
structure Session where
  store : Store
  output : List Text

/-- A step of work on a session. It may fail, and keeps what was done before it. -/
abbrev Handler (α : Type) := ExceptT Fault (StateM Session) α

namespace Handler

/-- The result of a handler and the session that it leaves. -/
def runOn {α : Type} (h : Handler α) (s : Session) : Except Fault α × Session := h s

/-- Looks the value of a name up. -/
def lookup (name : Text) : Handler Value := do
  let s ← get
  ofExcept (s.store.lookup name)

/-- Finds the value of an expression. -/
def resolve (expression : Text) : Handler Value := do
  let s ← get
  ofExcept (s.store.resolve expression)

/-- Prints a line. -/
def print (line : Text) : Handler Unit := modify fun s => { s with output := s.output ++ [line] }

/-- Gives a name a value. -/
def assign (name : Text) (value : Value) : Handler Unit :=
  modify fun s => { s with store := s.store.bind name value }

/-! ### Running a handler -/

section
variable {α β : Type}

@[simp] theorem runOn_pure (a : α) (s : Session) : runOn (pure a) s = (.ok a, s) := rfl

@[simp] theorem runOn_throw (e : Fault) (s : Session) :
    runOn (throw e : Handler α) s = (.error e, s) := rfl

theorem runOn_bind (x : Handler α) (f : α → Handler β) (s : Session) :
    runOn (x >>= f) s =
      match runOn x s with
      | (.ok a, t) => runOn (f a) t
      | (.error e, t) => (.error e, t) := by
  simp only [runOn, bind, ExceptT.bind, ExceptT.mk, StateT.bind, ExceptT.bindCont]
  obtain ⟨r, t⟩ := x s
  cases r <;> rfl

@[simp] theorem runOn_ofExcept (x : Except Fault α) (s : Session) :
    runOn (ofExcept x) s = (x, s) := by
  cases x <;> rfl

@[simp] theorem runOn_lookup (name : Text) (s : Session) :
    runOn (lookup name) s = (s.store.lookup name, s) :=
  (runOn_bind _ _ s).trans (runOn_ofExcept _ s)

@[simp] theorem runOn_resolve (expression : Text) (s : Session) :
    runOn (resolve expression) s = (s.store.resolve expression, s) :=
  (runOn_bind _ _ s).trans (runOn_ofExcept _ s)

@[simp] theorem runOn_print (line : Text) (s : Session) :
    runOn (print line) s = (.ok (), ⟨s.store, s.output ++ [line]⟩) := rfl

@[simp] theorem runOn_assign (name : Text) (value : Value) (s : Session) :
    runOn (assign name value) s = (.ok (), ⟨s.store.bind name value, s.output⟩) := rfl

end

/-- Prints lines, one after the other. -/
theorem runOn_forM_print (lines : Nat → Text) (is : List Nat) (s : Session) :
    runOn (forM is fun i => print (lines i)) s = (.ok (), ⟨s.store, s.output ++ is.map lines⟩) := by
  induction is generalizing s with
  | nil => simp
  | cons i is ih =>
    rw [List.forM_cons, runOn_bind, runOn_print]
    simp only [ih, List.append_assoc, List.singleton_append, List.map_cons]

end Handler

/-- Carries out a statement, step by step. -/
def Statement.handle : Statement → Handler Unit
  | declare name expression => do
    let value ← Handler.resolve expression
    Handler.assign name value
  | shout expression => do
    let line ← match Expression.quoted? expression with
      | some inner => pure inner
      | none => do
        let value ← Handler.lookup expression
        pure value.text
    Handler.print line
  | arithmetic op target source expression => do
    let left ← Handler.lookup source
    let right ← Handler.resolve expression
    let result ← ofExcept (Value.calculate op left right)
    Handler.assign target result
  | grind count => do
    let value ← Handler.resolve count
    match value.count? with
    | some n => forM (List.range n) fun i => Handler.print (roundLine (i + 1))
    | none => throw (.badCount value.literal)
  | compare name expression => do
    let actual ← Handler.lookup name
    let expected ← Handler.resolve expression
    Handler.print (verdict name actual expected)
  | keep name expression => do
    let value ← Handler.resolve expression
    Handler.print (keepLine name value)
    Handler.assign name value

/-- A handler leaves the outcome of its statement, or the session as it was. -/
theorem Statement.run_handle (st : Statement) (s : Session) :
    Handler.runOn st.handle s =
      match st.apply s.store with
      | .ok effect => (.ok (), ⟨effect.store, s.output ++ effect.printed⟩)
      | .error f => (.error f, s) := by
  cases st with
  | declare name e =>
    simp only [handle, apply, Handler.runOn_bind, Handler.runOn_resolve]
    cases s.store.resolve e with
    | error f => rfl
    | ok value => simp [pure, Except.pure]
  | shout e =>
    simp only [handle, apply, shouted]
    cases Expression.quoted? e with
    | some inner => rfl
    | none =>
      simp only [Handler.runOn_bind, Handler.runOn_lookup]
      cases s.store.lookup e <;> rfl
  | arithmetic op target source e =>
    simp only [handle, apply, Handler.runOn_bind, Handler.runOn_lookup]
    cases s.store.lookup source with
    | error f => rfl
    | ok left =>
      simp only [Handler.runOn_resolve, ok_bind]
      cases s.store.resolve e with
      | error f => rfl
      | ok right =>
        simp only [Handler.runOn_ofExcept, ok_bind]
        cases Value.calculate op left right with
        | error f => rfl
        | ok result => simp [pure, Except.pure]
  | grind e =>
    simp only [handle, apply, Handler.runOn_bind, Handler.runOn_resolve]
    cases s.store.resolve e with
    | error f => rfl
    | ok value =>
      simp only [ok_bind]
      cases value.count? with
      | none => rfl
      | some n => exact Handler.runOn_forM_print ..
  | compare name e =>
    simp only [handle, apply, Handler.runOn_bind, Handler.runOn_lookup]
    cases s.store.lookup name with
    | error f => rfl
    | ok actual =>
      simp only [Handler.runOn_resolve, ok_bind]
      cases s.store.resolve e <;> rfl
  | keep name e =>
    simp only [handle, apply, Handler.runOn_bind, Handler.runOn_resolve]
    cases s.store.resolve e <;> rfl

/-! ### Lines and programs -/

/-- Reads a line and handles its statement. -/
def Handler.line (l : SourceLine) : Handler Unit := do
  let st ← ofExcept (Statement.parse l.text)
  st.handle

/-- The handler of a line does to a session what the line does to a run. -/
theorem Handler.runOn_line (l : SourceLine) (s : Session) :
    (line l).runOn s =
      match Context.carryOut s.store l with
      | .ok effect => (.ok (), ⟨effect.store, s.output ++ effect.printed⟩)
      | .error f => (.error f, s) := by
  simp only [line, Context.carryOut, runOn_bind, runOn_ofExcept]
  cases Statement.parse l.text with
  | error f => rfl
  | ok st => exact st.run_handle s

namespace Session

/-- The session before the first line. -/
def start : Session := ⟨.empty, []⟩

/-- Handles lines until one fails, and keeps the session that it leaves. -/
def runLines (s : Session) : List SourceLine → Context
  | [] => ⟨s.store, s.output, none⟩
  | l :: ls =>
    match (Handler.line l).runOn s with
    | (.ok _, t) => t.runLines ls
    | (.error f, t) => ⟨t.store, t.output, some (l.fail f)⟩

/-- Handling lines one after the other is running them. -/
theorem runLines_eq_runFrom (s : Session) (ls : List SourceLine) :
    s.runLines ls = Context.runFrom ⟨s.store, s.output, none⟩ ls := by
  induction ls generalizing s with
  | nil => rfl
  | cons l ls ih =>
    rw [runLines, Handler.runOn_line, Context.runFrom_cons]
    rcases Context.step_cases (c := ⟨s.store, s.output, none⟩) rfl l with
      ⟨effect, h, hstep⟩ | ⟨f, h, hstep⟩
    · rw [h, hstep]
      exact ih ⟨effect.store, s.output ++ effect.printed⟩
    · rw [h, hstep, Context.runFrom_of_failed rfl]

end Session

/-! ### No trace -/

/-- The source in front of a statement that fails ends well, with all that the failing run has. -/
theorem execute_takeBytes {source : Text} {f : Failure} (h : (execute source).failure = some f) :
    Text.byteLength (Text.takeBytes f.span.start.offset source) = f.span.start.offset ∧
      execute (Text.takeBytes f.span.start.offset source) =
        { execute source with failure := none } := by
  obtain ⟨before, l, after, fault, hls, hok, hl, rfl⟩ := Context.exists_break rfl h
  obtain ⟨hlength, hbefore⟩ := Source.statementLines_takeBytes hls
  refine ⟨hlength, ?_⟩
  have hrun := Context.runFrom_break hok hl after
  rw [execute, execute, hls, hrun]
  rw [show Source.statementLines (Text.takeBytes (l.fail fault).span.start.offset source) = before
    from hbefore]
  generalize Context.start.runFrom before = c at hok ⊢
  obtain ⟨store, output, failure⟩ := c
  cases hok
  rfl

/-- The lines behind a statement that fails do not matter. -/
theorem execute_eq_of_take {source other : Text} {f : Failure}
    (h : (execute source).failure = some f)
    (hother : (Source.physicalLines other).take f.line =
      (Source.physicalLines source).take f.line) :
    execute other = execute source := by
  obtain ⟨before, l, after, fault, hls, hok, hl, rfl⟩ := Context.exists_break rfl h
  obtain ⟨rest, hrest⟩ := Source.statementLines_of_take hls hother
  rw [execute, execute, hls, hrest, Context.runFrom_break hok hl, Context.runFrom_break hok hl]

/-- A statement that fails leaves no trace. Its handler leaves the store and the output as they
were; a program is run by such handlers; and where a run fails, the source up to the byte at which
the failing line begins ends well with the same store and the same output, and every source with the
same lines up to the failing one, whatever its other lines are, runs in the same way. -/
theorem failure_leaves_no_trace :
    (∀ (st : Statement) (s : Session) (f : Fault),
      (st.handle.runOn s).1 = .error f → (st.handle.runOn s).2 = s) ∧
    ∀ source : Text,
      execute source = Session.start.runLines (Source.statementLines source) ∧
      ∀ f, (execute source).failure = some f →
        Text.byteLength (Text.takeBytes f.span.start.offset source) = f.span.start.offset ∧
        execute (Text.takeBytes f.span.start.offset source) =
          { execute source with failure := none } ∧
        ∀ other, (Source.physicalLines other).take f.line =
            (Source.physicalLines source).take f.line → execute other = execute source := by
  refine ⟨fun st s f h => ?_, fun source => ⟨?_, fun f h => ?_⟩⟩
  · rw [Statement.run_handle] at h ⊢
    cases hst : st.apply s.store with
    | ok effect => rw [hst] at h; cases h
    | error g => rfl
  · rw [Session.runLines_eq_runFrom]
    rfl
  · obtain ⟨hlength, hexecute⟩ := execute_takeBytes h
    exact ⟨hlength, hexecute, fun other hother => execute_eq_of_take h hother⟩

/-- A division by zero in the third line: the first two lines are as if it did not stand there, and
what stands behind it may as well be something else. -/
theorem division_by_zero_leaves_no_trace :
    ∃ f, (execute "vibe a = 1\nshout a\ndiv b a 0\nvibe b = 2").failure = some f ∧
      f.fault = .divisionByZero ∧ f.span.start.offset = 19 ∧
      execute "vibe a = 1\nshout a\n" =
        { execute "vibe a = 1\nshout a\ndiv b a 0\nvibe b = 2" with failure := none } ∧
      execute "vibe a = 1\nshout a\ndiv b a 0\nshout b" =
        execute "vibe a = 1\nshout a\ndiv b a 0\nvibe b = 2" := by
  have hfault : (execute "vibe a = 1\nshout a\ndiv b a 0\nvibe b = 2").failure.map
      (fun f => (f.fault, f.span.start.offset, f.line)) = some (.divisionByZero, 19, 3) := by
    decide +kernel
  obtain ⟨f, hf, hparts⟩ := Option.map_eq_some_iff.1 hfault
  obtain ⟨hdivision, hoffset, hline⟩ : f.fault = .divisionByZero ∧ f.span.start.offset = 19 ∧
      f.line = 3 := by simpa only [Prod.mk.injEq] using hparts
  obtain ⟨_, hbefore, hother⟩ := (failure_leaves_no_trace.2 _).2 f hf
  refine ⟨f, hf, hdivision, hoffset, ?_, hother _ ?_⟩
  · rw [← hbefore, hoffset]
    exact congrArg execute (by decide +kernel)
  · rw [hline]
    decide +kernel

end VibeScript
