import VibeScript.Proofs.Bindings
import VibeScript.Proofs.Handlers

/-!
What a statement depends on and what it changes. It looks at the bindings of the names that it
`reads`, and its outcome is the same in all scopes that agree on these (`outcome_congr`). It changes
the binding of its target alone, and adds to what was printed (`Session.after`).

So a statement does the same in two sessions that agree on what it reads, and two statements may
change places if neither binds a name that the other reads or binds, and not both of them print
(`runOn_swap`).
-/

namespace VibeScript

/-- Whether the statements of a kind print lines. -/
def StatementKind.prints : StatementKind → Bool
  | declare => false
  | arithmetic _ => false
  | shout => true
  | grind => true
  | compare => true
  | keep => true

namespace Statement

/-! ### What a statement reads -/

/-- The name that a statement looks up besides its expression. -/
def source? : Statement → Option Text
  | arithmetic _ _ source _ => some source
  | compare name _ => some name
  | declare .. => none
  | shout _ => none
  | grind _ => none
  | keep .. => none

/-- The name under which an expression may be looked up: its text without the blanks at its ends.
A text to be printed is looked up as it stands. -/
def key : Statement → Text
  | shout expression => expression
  | declare _ expression => Text.trim expression
  | arithmetic _ _ _ expression => Text.trim expression
  | grind count => Text.trim count
  | compare _ expression => Text.trim expression
  | keep _ expression => Text.trim expression

/-- The names that a statement may look up. -/
def reads (st : Statement) : List Text := st.source?.toList ++ [st.key]

/-- The names that a statement that was read may look up are a name and its expression. -/
theorem reads_of_parse {line : Text} {st : Statement} (h : parse line = .ok st) :
    st.reads = st.source?.toList ++ [Text.trim st.expression] := by
  have htrim := trim_of_parse h
  rw [reads]
  cases st with
  | shout e => rw [htrim]; rfl
  | declare name e => rfl
  | arithmetic op target source e => rfl
  | grind e => rfl
  | compare name e => rfl
  | keep name e => rfl

end Statement

section

variable {scope scope' : Scope}

theorem Scope.lookup_congr {name : Text} (h : scope name = scope' name) :
    scope.lookup name = scope'.lookup name := by
  simp only [lookup, h]

theorem Scope.resolve_congr {e : Text} (h : scope (Text.trim e) = scope' (Text.trim e)) :
    scope.resolve e = scope'.resolve e := by
  simp only [resolve, lookup, h]

/-- Scopes that agree on what a statement reads lead to the same outcome. -/
theorem Statement.outcome_congr {st : Statement} (h : ∀ name ∈ st.reads, scope name = scope' name) :
    st.outcome scope = st.outcome scope' := by
  have hkey : scope st.key = scope' st.key := h _ (by simp [reads])
  have hsource : ∀ name, st.source? = some name → scope name = scope' name :=
    fun name hname => h name (by simp [reads, hname])
  cases st with
  | declare name e => simp only [outcome, Scope.resolve_congr hkey]
  | shout e =>
    have hlookup : scope.lookup e = scope'.lookup e := Scope.lookup_congr hkey
    simp only [outcome, hlookup]
  | arithmetic op target source e =>
    simp only [outcome, Scope.lookup_congr (hsource source rfl), Scope.resolve_congr hkey]
  | grind e => simp only [outcome, Scope.resolve_congr hkey]
  | compare name e =>
    simp only [outcome, Scope.lookup_congr (hsource name rfl), Scope.resolve_congr hkey]
  | keep name e => simp only [outcome, Scope.resolve_congr hkey]

/-- A statement of a kind that does not print prints nothing. -/
theorem Statement.printed_of_outcome {st : Statement} {o : Outcome} (h : st.outcome scope = .ok o)
    (hk : st.kind.prints = false) : o.printed = [] := by
  cases st with
  | declare name e =>
    obtain ⟨v, _, h⟩ := exists_of_bind_ok h
    cases h
    rfl
  | arithmetic op target source e =>
    obtain ⟨v, _, h⟩ := exists_of_bind_ok h
    obtain ⟨w, _, h⟩ := exists_of_bind_ok h
    obtain ⟨r, _, h⟩ := exists_of_bind_ok h
    cases h
    rfl
  | shout e => cases hk
  | grind e => cases hk
  | compare name e => cases hk
  | keep name e => cases hk

end

/-! ### What a statement changes -/

namespace Session

/-- The session behind a statement with an outcome. -/
def after (s : Session) (o : Outcome) : Session := ⟨(o.effect s.store).store, s.output ++ o.printed⟩

variable {s : Session} {o p : Outcome}

/-- A name keeps its binding unless it is the one that is bound. -/
theorem get?_after_of_ne {name : Text} (h : o.binding.map Binding.name ≠ some name) :
    (s.after o).store.get? name = s.store.get? name := by
  rw [after, Outcome.get?_effect]
  cases hb : o.binding with
  | none => rfl
  | some b =>
    rw [hb] at h
    exact if_neg fun he => h (by rw [he]; rfl)

theorem get?_after_of_eq {b : Binding} (h : o.binding = some b) :
    (s.after o).store.get? b.name = some b.value := by
  rw [after, Outcome.get?_effect, h]
  exact if_pos rfl

/-- Outcomes that bind different names and do not both print may change places. -/
theorem after_comm (hnames : ∀ name, o.binding.map Binding.name = some name →
      p.binding.map Binding.name ≠ some name) (hprinted : o.printed = [] ∨ p.printed = []) :
    (s.after o).after p = (s.after p).after o := by
  have hstore : ((s.after o).after p).store = ((s.after p).after o).store := by
    refine Store.eq_of_get?_eq fun name => ?_
    by_cases ho : o.binding.map Binding.name = some name
    · obtain ⟨b, hb, rfl⟩ := Option.map_eq_some_iff.1 ho
      rw [get?_after_of_ne (hnames _ ho), get?_after_of_eq hb, get?_after_of_eq hb]
    · rw [get?_after_of_ne (s := s.after p) ho]
      by_cases hp : p.binding.map Binding.name = some name
      · obtain ⟨b, hb, rfl⟩ := Option.map_eq_some_iff.1 hp
        rw [get?_after_of_eq hb, get?_after_of_eq hb]
      · rw [get?_after_of_ne hp, get?_after_of_ne hp, get?_after_of_ne ho]
  have houtput : ((s.after o).after p).output = ((s.after p).after o).output := by
    rcases hprinted with h | h <;> simp [after, h]
  have h := congr (congrArg Session.mk hstore) houtput
  exact h

end Session

namespace Statement

variable {st a b : Statement} {s t : Session}

theorem run_handle_ok {o : Outcome} (h : st.outcome s.store.get? = .ok o) :
    st.handle.runOn s = (.ok (), s.after o) := by
  rw [run_handle, apply_eq_ok_iff.2 ⟨o, h, rfl⟩]
  rfl

theorem run_handle_error {f : Fault} (h : st.outcome s.store.get? = .error f) :
    st.handle.runOn s = (.error f, s) := by
  rw [run_handle, apply_eq_error_iff.2 h]

/-- What two runs of a statement, in two sessions, have in common. -/
structure Alike (st : Statement) (s t : Session) : Prop where
  /-- Both succeed, or both fail with the same fault. -/
  result : (st.handle.runOn s).1 = (st.handle.runOn t).1
  /-- Both add the same lines to what was printed before. -/
  printed : ∃ lines, (st.handle.runOn s).2.output = s.output ++ lines ∧
    (st.handle.runOn t).2.output = t.output ++ lines
  /-- If they succeed, both give the target the same value. -/
  target : (st.handle.runOn s).1 = .ok () → ∀ name, st.target? = some name →
    ∃ v, (st.handle.runOn s).2.store.get? name = some v ∧
      (st.handle.runOn t).2.store.get? name = some v

/-- A statement does the same in sessions that agree on what it reads. -/
theorem alike_of_reads (h : ∀ name ∈ st.reads, s.store.get? name = t.store.get? name) :
    st.Alike s t := by
  have hcongr := outcome_congr h
  cases hs : st.outcome s.store.get? with
  | error f =>
    have ht := hcongr.symm.trans hs
    refine ⟨?result, ⟨[], ?printed⟩, ?target⟩
    case result => rw [run_handle_error hs, run_handle_error ht]
    case printed =>
      rw [run_handle_error hs, run_handle_error ht, List.append_nil, List.append_nil]
      exact ⟨rfl, rfl⟩
    case target =>
      intro hok
      rw [run_handle_error hs] at hok
      cases hok
  | ok o =>
    have ht := hcongr.symm.trans hs
    refine ⟨?result, ⟨o.printed, ?printed⟩, ?target⟩
    case result => rw [run_handle_ok hs, run_handle_ok ht]
    case printed =>
      rw [run_handle_ok hs, run_handle_ok ht]
      exact ⟨rfl, rfl⟩
    case target =>
      intro _ name hname
      rw [target?_eq_of_outcome hs] at hname
      obtain ⟨binding, hb, rfl⟩ := Option.map_eq_some_iff.1 hname
      rw [run_handle_ok hs, run_handle_ok ht]
      exact ⟨binding.value, Session.get?_after_of_eq hb, Session.get?_after_of_eq hb⟩

/-- A statement leaves all names but its target as they were. -/
theorem get?_run_handle {name : Text} (h : st.target? ≠ some name) :
    (st.handle.runOn s).2.store.get? name = s.store.get? name := by
  cases hs : st.outcome s.store.get? with
  | error f => rw [run_handle_error hs]
  | ok o =>
    rw [target?_eq_of_outcome hs] at h
    rw [run_handle_ok hs]
    exact Session.get?_after_of_ne h

/-! ### Statements that change places -/

/-- Whether neither of two statements binds a name that the other reads or binds. -/
def Independent (a b : Statement) : Prop :=
  (∀ name, a.target? = some name → name ∉ b.reads ∧ b.target? ≠ some name) ∧
  (∀ name, b.target? = some name → name ∉ a.reads ∧ a.target? ≠ some name)

theorem Independent.symm (h : a.Independent b) : b.Independent a := ⟨h.2, h.1⟩

/-- Carries out one statement and then another. -/
def both (a b : Statement) : Handler Unit := do
  a.handle
  b.handle

/-- The second of two independent statements has the outcome that it has alone. -/
theorem Independent.outcome_after (h : a.Independent b) {o : Outcome}
    (ha : a.outcome s.store.get? = .ok o) :
    b.outcome (s.after o).store.get? = b.outcome s.store.get? := by
  refine outcome_congr fun name hname => Session.get?_after_of_ne ?_
  rw [← target?_eq_of_outcome ha]
  intro htarget
  exact (h.1 name htarget).1 hname

/-- Independent statements succeed one after the other if and only if both have an outcome. -/
theorem Independent.run_both_iff (h : a.Independent b) :
    ((a.both b).runOn s).1 = .ok () ↔
      ∃ o p, a.outcome s.store.get? = .ok o ∧ b.outcome s.store.get? = .ok p := by
  rw [both, Handler.runOn_bind]
  cases ha : a.outcome s.store.get? with
  | error f => simp [run_handle_error ha]
  | ok o =>
    have hb := h.outcome_after ha
    cases hp : b.outcome s.store.get? with
    | error f => simp [run_handle_ok ha, run_handle_error (hb.trans hp)]
    | ok p => simp [run_handle_ok ha, run_handle_ok (hb.trans hp)]

/-- What two independent statements that succeed leave. -/
theorem Independent.run_both (h : a.Independent b) {o p : Outcome}
    (ha : a.outcome s.store.get? = .ok o) (hb : b.outcome s.store.get? = .ok p) :
    (a.both b).runOn s = (.ok (), (s.after o).after p) := by
  have hp := (h.outcome_after ha).trans hb
  rw [both, Handler.runOn_bind, run_handle_ok ha]
  exact run_handle_ok hp

/-- Independent statements of which one at most prints may change places. -/
theorem Independent.run_both_comm (h : a.Independent b)
    (hprints : (a.kind.prints && b.kind.prints) = false) (hok : ((a.both b).runOn s).1 = .ok ()) :
    (b.both a).runOn s = (a.both b).runOn s := by
  obtain ⟨o, p, ha, hb⟩ := h.run_both_iff.1 hok
  rw [h.run_both ha hb, h.symm.run_both hb ha]
  have hnames : ∀ name, p.binding.map Binding.name = some name →
      o.binding.map Binding.name ≠ some name := by
    intro name hname
    rw [← target?_eq_of_outcome hb] at hname
    rw [← target?_eq_of_outcome ha]
    exact (h.2 name hname).2
  have hprinted : p.printed = [] ∨ o.printed = [] := by
    rcases Bool.and_eq_false_iff.1 hprints with hk | hk
    · exact .inr (printed_of_outcome ha hk)
    · exact .inl (printed_of_outcome hb hk)
  rw [Session.after_comm hnames hprinted]

end Statement

/-- A statement depends on the names that it reads and changes its target alone. In sessions that
agree on these names it ends in the same way, prints the same and gives its target the same value;
all other names keep their bindings, and what was printed stays in front. So two statements of which
neither binds a name that the other reads or binds, and of which one at most prints, succeed in both
orders or in none, and both orders lead to the same session. -/
theorem statement_frame :
    (∀ (st : Statement) (s : Session), st.handle.runOn s =
      match st.apply s.store with
      | .ok effect => (.ok (), ⟨effect.store, s.output ++ effect.printed⟩)
      | .error f => (.error f, s)) ∧
    (∀ line st, Statement.parse line = .ok st →
      st.reads = st.source?.toList ++ [Text.trim st.expression]) ∧
    (∀ (st : Statement) (s t : Session),
      (∀ name ∈ st.reads, s.store.get? name = t.store.get? name) → st.Alike s t) ∧
    (∀ (st : Statement) (s : Session), s.output <+: (st.handle.runOn s).2.output ∧
      ∀ name, st.target? ≠ some name →
        (st.handle.runOn s).2.store.get? name = s.store.get? name) ∧
    ∀ (a b : Statement) (s : Session), a.Independent b →
      (a.kind.prints && b.kind.prints) = false →
      (((a.both b).runOn s).1 = .ok () ↔ ((b.both a).runOn s).1 = .ok ()) ∧
      (((a.both b).runOn s).1 = .ok () → (b.both a).runOn s = (a.both b).runOn s) := by
  refine ⟨Statement.run_handle, fun line st h => Statement.reads_of_parse h,
    fun st s t h => Statement.alike_of_reads h, fun st s => ⟨?_, fun name h => ?_⟩,
    fun a b s h hprints => ⟨?_, h.run_both_comm hprints⟩⟩
  · have halike : st.Alike s s := Statement.alike_of_reads fun _ _ => rfl
    obtain ⟨lines, hlines, _⟩ := halike.printed
    exact ⟨lines, hlines.symm⟩
  · exact Statement.get?_run_handle h
  · rw [h.run_both_iff, h.symm.run_both_iff]
    constructor
    · rintro ⟨o, p, ho, hp⟩
      exact ⟨p, o, hp, ho⟩
    · rintro ⟨p, o, hp, ho⟩
      exact ⟨o, p, ho, hp⟩

/-- Adding a number to itself does not care about other names, and may change places with printing
one of them. -/
theorem add_to_itself_beside_shout :
    (Statement.arithmetic .add "x" "x" "x").reads = [("x" : Text), "x"] ∧
    (Statement.arithmetic .add "x" "x" "x").Alike
      ⟨.ofList [("x", .string "a"), ("y", .boolean true)], []⟩
      ⟨.ofList [("x", .string "a")], ["b"]⟩ ∧
    ((Statement.shout "y").both (.arithmetic .add "x" "x" "x")).runOn
        ⟨.ofList [("x", .string "a"), ("y", .boolean true)], []⟩ =
      ((Statement.arithmetic .add "x" "x" "x").both (.shout "y")).runOn
        ⟨.ofList [("x", .string "a"), ("y", .boolean true)], []⟩ := by
  obtain ⟨_, hreads, halike, _, hswap⟩ := statement_frame
  have hindependent : (Statement.arithmetic .add "x" "x" "x").Independent (.shout "y") := by
    refine ⟨fun name hname => ?_, fun name hname => by cases hname⟩
    obtain rfl := Option.some.inj hname
    decide
  refine ⟨?_, halike _ _ _ (by decide +kernel), (hswap _ _ _ hindependent rfl).2 (by rfl)⟩
  exact hreads "add x x x" (.arithmetic .add "x" "x" "x") (by rfl)

end VibeScript
