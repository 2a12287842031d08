import VibeScript.Proofs.Frame

/-!
Names that are used before they have a value. A statement looks names up one after the other
(`Statement.lookups`), and it ends with the fault of an unbound name exactly if one of them has no
value; the fault is about the first of these (`outcome_eq_unbound_iff`).

In a run a name has a value if it is the target of an earlier line. So whether a statement that is
reached ends with that fault can be read off the program: it does if it looks up a name that no
earlier line has as its target (`unbound_iff_no_earlier_target`).
-/

namespace VibeScript

/-! ### The first of some names -/

/-- Whether a name is the first of some names with a property. -/
def IsFirst (p : Text → Prop) (names : List Text) (n : Text) : Prop :=
  ∃ front back, names = front ++ n :: back ∧ p n ∧ ∀ m ∈ front, ¬ p m

section

variable {p : Text → Prop} {n : Text}

theorem not_isFirst_nil : ¬ IsFirst p [] n := by
  rintro ⟨front, back, h, _⟩
  simp at h

theorem isFirst_cons {m : Text} {names : List Text} :
    IsFirst p (m :: names) n ↔ p m ∧ n = m ∨ ¬ p m ∧ IsFirst p names n := by
  constructor
  · rintro ⟨front, back, hsplit, hn, hfront⟩
    cases front with
    | nil =>
      obtain ⟨rfl, _⟩ := List.cons.inj hsplit
      exact .inl ⟨hn, rfl⟩
    | cons k front =>
      obtain ⟨rfl, hnames⟩ := List.cons.inj hsplit
      obtain ⟨hm, hlater⟩ := List.forall_mem_cons.1 hfront
      exact .inr ⟨hm, front, back, hnames, hn, hlater⟩
  · rintro (⟨hm, rfl⟩ | ⟨hm, front, back, rfl, hn, hfront⟩)
    · exact ⟨[], names, rfl, hm, by simp⟩
    · exact ⟨m :: front, back, rfl, hn, List.forall_mem_cons.2 ⟨hm, hfront⟩⟩

theorem isFirst_toList {name? : Option Text} :
    IsFirst p name?.toList n ↔ name? = some n ∧ p n := by
  cases name? with
  | none => simp [not_isFirst_nil]
  | some m =>
    rw [Option.toList_some, isFirst_cons, Option.some.injEq]
    constructor
    · rintro (⟨hm, rfl⟩ | ⟨_, h⟩)
      · exact ⟨rfl, hm⟩
      · exact absurd h not_isFirst_nil
    · rintro ⟨rfl, hn⟩
      exact .inl ⟨hn, rfl⟩

/-- One of some names has a property if and only if there is a first. -/
theorem exists_isFirst_iff {names : List Text} :
    (∃ n, IsFirst p names n) ↔ ∃ n ∈ names, p n := by
  constructor
  · rintro ⟨n, front, back, rfl, hn, _⟩
    exact ⟨n, by simp, hn⟩
  · rintro ⟨n, hmem, hn⟩
    induction names with
    | nil => cases hmem
    | cons m names ih =>
      by_cases hm : p m
      · exact ⟨m, isFirst_cons.2 (.inl ⟨hm, rfl⟩)⟩
      · rcases List.mem_cons.1 hmem with rfl | hmem
        · exact absurd hn hm
        · obtain ⟨k, hk⟩ := ih hmem
          exact ⟨k, isFirst_cons.2 (.inr ⟨hm, hk⟩)⟩

end

/-! ### What is looked up -/

/-- The name that an expression is: a word, unless it is a numeral, `true` or `false`. -/
def Expression.name? (e : Text) : Option Text :=
  if Text.isWord e ∧ ¬ Decimal.isNumeral e ∧ e ≠ "true" ∧ e ≠ "false" then some e else none

namespace Statement

/-- The name as which a statement looks up its expression, if it does. Whatever is to be printed is
looked up, unless it stands between quotes. -/
def named? : Statement → Option Text
  | shout expression => if Expression.quoted? expression = none then some expression else none
  | declare _ expression => Expression.name? expression
  | arithmetic _ _ _ expression => Expression.name? expression
  | grind count => Expression.name? count
  | compare _ expression => Expression.name? expression
  | keep _ expression => Expression.name? expression

/-- The names that a statement looks up, in their order. -/
def lookups (st : Statement) : List Text := st.source?.toList ++ st.named?.toList

end Statement

theorem Expression.quoted?_of_isWord {e : Text} (h : Text.isWord e = true) : quoted? e = none := by
  unfold quoted?
  split
  · simp [Text.isWord, Text.isWordChar] at h
  · rfl

theorem Expression.literal?_of_isWord {e : Text} (h : Text.isWord e = true) :
    literal? e =
      if Decimal.isNumeral e then some (.number (.ofNumeral e))
      else if e = "true" then some (.boolean true)
      else if e = "false" then some (.boolean false)
      else none := by
  rw [literal?, quoted?_of_isWord h]

/-- An expression is a name if it is a word and no literal. -/
theorem Expression.name?_eq_some_iff {e n : Text} :
    name? e = some n ↔ Text.isWord e = true ∧ literal? e = none ∧ e = n := by
  rw [name?]
  constructor
  · intro h
    split at h
    · rename_i hname
      obtain ⟨hword, hnumeral, htrue, hfalse⟩ := hname
      refine ⟨hword, ?_, Option.some.inj h⟩
      rw [literal?_of_isWord hword, if_neg hnumeral, if_neg htrue, if_neg hfalse]
    · cases h
  · rintro ⟨hword, hliteral, rfl⟩
    rw [literal?_of_isWord hword] at hliteral
    split at hliteral
    · cases hliteral
    · rename_i hnumeral
      split at hliteral
      · cases hliteral
      · rename_i htrue
        split at hliteral
        · cases hliteral
        · rename_i hfalse
          exact if_pos ⟨hword, hnumeral, htrue, hfalse⟩

section

variable {scope : Scope} {n : Text}

theorem Scope.lookup_eq_unbound_iff {name : Text} :
    scope.lookup name = .error (.unbound n) ↔ name = n ∧ scope n = none := by
  rw [lookup]
  cases h : scope name with
  | none =>
    constructor
    · intro he
      cases he
      exact ⟨rfl, h⟩
    · rintro ⟨rfl, _⟩
      rfl
  | some v =>
    constructor
    · intro he
      cases he
    · rintro ⟨rfl, hn⟩
      rw [h] at hn
      cases hn

theorem Scope.resolve_eq_unbound_iff {e : Text} (he : Text.trim e = e) :
    scope.resolve e = .error (.unbound n) ↔ Expression.name? e = some n ∧ scope n = none := by
  rw [resolve, he, Expression.name?_eq_some_iff]
  cases Expression.literal? e with
  | some v => simp
  | none =>
    cases Text.isWord e with
    | false => simp
    | true => simpa using lookup_eq_unbound_iff

/-- If only the first of two steps can find a name unbound, both do so together. -/
theorem bind_eq_unbound_iff {α β : Type} {x : Except Fault α} {f : α → Except Fault β}
    (hf : ∀ a, f a ≠ .error (.unbound n)) :
    (x >>= f) = .error (.unbound n) ↔ x = .error (.unbound n) := by
  cases x with
  | error e => simp
  | ok a =>
    constructor
    · intro h
      exact absurd h (hf a)
    · intro h
      cases h

theorem Value.calculate_ne_unbound (op : Operator) (v w : Value) :
    calculate op v w ≠ .error (.unbound n) := by
  intro h
  rcases error_cases_of_calculate h with h | h <;> cases h

/-- A statement ends with an unbound name if and only if this is the first name that it looks up and
that has no value. -/
theorem Statement.outcome_eq_unbound_iff {st : Statement}
    (he : Text.trim st.expression = st.expression) :
    st.outcome scope = .error (.unbound n) ↔ IsFirst (fun m => scope m = none) st.lookups n := by
  have hresolve : scope.resolve st.expression = .error (.unbound n) ↔
      IsFirst (fun m => scope m = none) (Expression.name? st.expression).toList n :=
    (Scope.resolve_eq_unbound_iff he).trans (isFirst_toList (p := fun m => scope m = none)).symm
  cases st with
  | declare name e => exact (bind_eq_unbound_iff fun a h => by cases h).trans hresolve
  | shout e =>
    simp only [outcome, lookups, source?, named?, Option.toList_none, List.nil_append]
    rw [isFirst_toList]
    cases Expression.quoted? e with
    | some inner => simp
    | none =>
      refine (bind_eq_unbound_iff fun a h => by cases h).trans ?_
      simpa using Scope.lookup_eq_unbound_iff
  | arithmetic op target source e =>
    simp only [outcome, lookups, source?, named?, Option.toList_some, List.singleton_append]
    rw [isFirst_cons]
    cases hs : scope source with
    | none => simp [Scope.lookup, hs, eq_comm]
    | some v =>
      have hcalculate : ∀ w, (do
          let r ← Value.calculate op v w
          return ⟨some ⟨target, r⟩, []⟩ : Except Fault Outcome) ≠ .error (.unbound n) := by
        intro w h
        rcases error_cases_of_bind h with h | ⟨r, _, h⟩
        · exact Value.calculate_ne_unbound op v w h
        · cases h
      simp only [Scope.lookup, hs, ok_bind]
      refine (bind_eq_unbound_iff hcalculate).trans ?_
      simpa [expression] using hresolve
  | grind e =>
    refine (bind_eq_unbound_iff fun a h => ?_).trans hresolve
    split at h <;> cases h
  | compare name e =>
    simp only [outcome, lookups, source?, named?, Option.toList_some, List.singleton_append]
    rw [isFirst_cons]
    cases hs : scope name with
    | none => simp [Scope.lookup, hs, eq_comm]
    | some v =>
      simp only [Scope.lookup, hs, ok_bind]
      refine (bind_eq_unbound_iff fun a h => by cases h).trans ?_
      simpa [expression] using hresolve
  | keep name e => exact (bind_eq_unbound_iff fun a h => by cases h).trans hresolve

end

/-! ### Runs -/

/-- A run stops at a line that is reached if and only if this line fails. -/
theorem Context.failure_execute_iff {source : Text} {before after : List SourceLine}
    {l : SourceLine} (hls : Source.statementLines source = before ++ l :: after)
    (hreached : (start.runFrom before).failure = none) {fault : Fault} :
    (execute source).failure = some (l.fail fault) ↔
      carryOut (start.runFrom before).store l = .error fault := by
  rw [execute, hls]
  constructor
  · intro hf
    rcases step_cases hreached l with ⟨effect, hl, hstep⟩ | ⟨fault', hl, hstep⟩
    · -- A failure further down has another line number.
      rw [runFrom_append, runFrom_cons, hstep] at hf
      obtain ⟨pre, m, post, fault', hafter, _, _, hfail⟩ := exists_break rfl hf
      have hlt := Source.number_lt_of_statementLines hls (m := m) (by rw [hafter]; simp)
      have hline : l.number = m.number := congrArg Failure.line hfail
      omega
    · rw [runFrom_break hreached hl, Option.some.injEq] at hf
      have hfault : fault' = fault := congrArg Failure.fault hf
      rw [hl, hfault]
  · intro hl
    rw [runFrom_break hreached hl]

/-- A name without a value is the target of no line so far. -/
theorem Context.get?_eq_none_iff {ls : List SourceLine}
    (h : (start.runFrom ls).failure = none) (name : Text) :
    (start.runFrom ls).store.get? name = none ↔ ∀ l ∈ ls, l.target? ≠ some name := by
  rw [← Option.not_isSome_iff_eq_none, isSome_get?_start_iff h name]
  simp

/-- A statement that is reached stops the run with an unbound name if and only if it looks up a name
that no earlier line has as its target. The name is the first of these in the order in which the
statement looks them up. -/
theorem unbound_iff_no_earlier_target {source : Text} {before after : List SourceLine}
    {l : SourceLine} {st : Statement} (hls : Source.statementLines source = before ++ l :: after)
    (hreached : (Context.start.runFrom before).failure = none)
    (hp : Statement.parse l.text = .ok st) :
    ((∃ n, (execute source).failure = some (l.fail (.unbound n))) ↔
      ∃ n ∈ st.lookups, ∀ k ∈ before, k.target? ≠ some n) ∧
    ∀ n, (execute source).failure = some (l.fail (.unbound n)) ↔
      IsFirst (fun m => ∀ k ∈ before, k.target? ≠ some m) st.lookups n := by
  have hline : ∀ n, (execute source).failure = some (l.fail (.unbound n)) ↔
      IsFirst (fun m => ∀ k ∈ before, k.target? ≠ some m) st.lookups n := by
    intro n
    have hcarry : Context.carryOut (Context.start.runFrom before).store l = .error (.unbound n) ↔
        st.outcome (Context.start.runFrom before).store.get? = .error (.unbound n) := by
      rw [Context.carryOut, hp]
      exact Statement.apply_eq_error_iff
    have hnames : (fun m => (Context.start.runFrom before).store.get? m = none) =
        fun m => ∀ k ∈ before, k.target? ≠ some m :=
      funext fun m => propext (Context.get?_eq_none_iff hreached m)
    rw [Context.failure_execute_iff hls hreached, hcarry,
      Statement.outcome_eq_unbound_iff (Statement.trim_of_parse hp), hnames]
  refine ⟨?_, hline⟩
  rw [← exists_isFirst_iff]
  exact exists_congr hline

/-- A statement has no value of its target to compute with, even if a later line gives it one. -/
theorem unbound_target_of_its_own_line :
    ∃ before l after st,
      Source.statementLines "vibe a = 1\nadd b a b\nvibe b = 2" = before ++ l :: after ∧
      (Context.start.runFrom before).failure = none ∧ Statement.parse l.text = .ok st ∧
      st.lookups = [("a" : Text), "b"] ∧
      (execute "vibe a = 1\nadd b a b\nvibe b = 2").failure = some (l.fail (.unbound "b")) := by
  let before : List SourceLine := [⟨1, "vibe a = 1", .ofLine 1 0 "vibe a = 1"⟩]
  let l : SourceLine := ⟨2, "add b a b", .ofLine 2 11 "add b a b"⟩
  let after : List SourceLine := [⟨3, "vibe b = 2", .ofLine 3 21 "vibe b = 2"⟩]
  have hls : Source.statementLines "vibe a = 1\nadd b a b\nvibe b = 2" = before ++ l :: after := by
    decide +kernel
  have hreached : (Context.start.runFrom before).failure = none := by decide +kernel
  have hp : Statement.parse l.text = .ok (.arithmetic .add "b" "a" "b") := by rfl
  have hfirst : IsFirst (fun m => ∀ k ∈ before, k.target? ≠ some m)
      (Statement.arithmetic .add "b" "a" "b").lookups "b" :=
    ⟨["a"], [], by decide +kernel, by decide +kernel, by decide +kernel⟩
  exact ⟨before, l, after, _, hls, hreached, hp, by decide +kernel,
    ((unbound_iff_no_earlier_target hls hreached hp).2 "b").2 hfirst⟩

end VibeScript
