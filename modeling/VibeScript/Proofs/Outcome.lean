import VibeScript.Execution

/-!
What a statement comes to, told by the answers to its look-ups alone: a binding at most, and the
lines that it prints, or a fault. Carrying a statement out on a store is its outcome in the scope of
that store, taken over into the store (`apply_eq_outcome`).

A statement that was read never turns out to be malformed (`isSyntax_of_outcome`), and a line that
is malformed is found out by reading it (`isSyntax_of_parse`).
-/

namespace VibeScript

/-! ### Computations that may fail -/

section
variable {ε α β : Type}

@[simp] theorem ok_bind (a : α) (f : α → Except ε β) : (Except.ok a >>= f) = f a := rfl

@[simp] theorem error_bind (e : ε) (f : α → Except ε β) :
    (Except.error e >>= f) = .error e := rfl

/-- What succeeds in two steps succeeds in the first and then in the second. -/
theorem exists_of_bind_ok {x : Except ε α} {f : α → Except ε β} {b : β}
    (h : (x >>= f) = .ok b) : ∃ a, x = .ok a ∧ f a = .ok b := by
  cases x with
  | error e => cases h
  | ok a => exact ⟨a, rfl, h⟩

/-- What fails in two steps fails in the first, or in the second behind the first. -/
theorem error_cases_of_bind {x : Except ε α} {f : α → Except ε β} {e : ε}
    (h : (x >>= f) = .error e) : x = .error e ∨ ∃ a, x = .ok a ∧ f a = .error e := by
  cases x with
  | error e' => rw [error_bind] at h; cases h; exact .inl rfl
  | ok a => rw [ok_bind] at h; exact .inr ⟨a, rfl, h⟩

end

/-! ### Scopes -/

/-- Which value a name has. -/
abbrev Scope := Text → Option Value

namespace Scope

/-- The value of a name, which has to have one. -/
def lookup (scope : Scope) (name : Text) : Except Fault Value :=
  match scope name with
  | some value => .ok value
  | none => .error (.unbound name)

/-- The value of an expression. -/
def resolve (scope : Scope) (expression : Text) : Except Fault Value :=
  match Expression.literal? (Text.trim expression) with
  | some value => .ok value
  | none =>
    if Text.isWord (Text.trim expression) then scope.lookup (Text.trim expression)
    else .error (.unresolved (Text.trim expression))

end Scope

/-- What a statement that succeeds does: the binding it makes, if any, and the lines it prints. -/
structure Outcome where
  binding : Option Binding
  printed : List Text

/-- The effect of an outcome on a store. -/
def Outcome.effect (s : Store) (o : Outcome) : Effect :=
  ⟨match o.binding with
    | some b => s.bind b.name b.value
    | none => s, o.printed⟩

namespace Statement

/-- What a statement comes to in a scope. -/
def outcome (scope : Scope) : Statement → Except Fault Outcome
  | declare name expression => do
    let value ← scope.resolve expression
    return ⟨some ⟨name, value⟩, []⟩
  | shout expression =>
    match Expression.quoted? expression with
    | some inner => .ok ⟨none, [inner]⟩
    | none => do
      let value ← scope.lookup expression
      return ⟨none, [value.text]⟩
  | arithmetic op target source expression => do
    let left ← scope.lookup source
    let right ← scope.resolve expression
    let result ← Value.calculate op left right
    return ⟨some ⟨target, result⟩, []⟩
  | grind count => do
    let value ← scope.resolve count
    match value.count? with
    | some n => return ⟨none, roundLines n⟩
    | none => throw (.badCount value.literal)
  | compare name expression => do
    let actual ← scope.lookup name
    let expected ← scope.resolve expression
    return ⟨none, [verdict name actual expected]⟩
  | keep name expression => do
    let value ← scope.resolve expression
    return ⟨some ⟨name, value⟩, [keepLine name value]⟩

/-! ### The outcome in a store -/

theorem lookup_get? (s : Store) (name : Text) : Scope.lookup s.get? name = s.lookup name := rfl

theorem resolve_get? (s : Store) (expression : Text) :
    Scope.resolve s.get? expression = s.resolve expression := rfl

/-- Carrying out a statement is taking its outcome over. -/
theorem apply_eq_outcome (s : Store) (st : Statement) :
    st.apply s = Outcome.effect s <$> st.outcome s.get? := by
  cases st with
  | declare name e =>
    rw [apply, outcome, resolve_get?]
    cases s.resolve e <;> rfl
  | shout e =>
    rw [apply, outcome, shouted]
    cases Expression.quoted? e with
    | some inner => rfl
    | none => simp only [lookup_get?]; cases s.lookup e <;> rfl
  | arithmetic op target source e =>
    rw [apply, outcome, lookup_get?, resolve_get?]
    cases s.lookup source with
    | error f => rfl
    | ok left =>
      cases s.resolve e with
      | error f => rfl
      | ok right => simp only [ok_bind]; cases Value.calculate op left right <;> rfl
  | grind e =>
    rw [apply, outcome, resolve_get?]
    cases s.resolve e with
    | error f => rfl
    | ok value => simp only [ok_bind]; cases value.count? <;> rfl
  | compare name e =>
    rw [apply, outcome, lookup_get?, resolve_get?]
    cases s.lookup name with
    | error f => rfl
    | ok actual => cases s.resolve e <;> rfl
  | keep name e =>
    rw [apply, outcome, resolve_get?]
    cases s.resolve e <;> rfl

/-- A statement succeeds on a store when it has an outcome in its scope. -/
theorem apply_eq_ok_iff {s : Store} {st : Statement} {effect : Effect} :
    st.apply s = .ok effect ↔ ∃ o, st.outcome s.get? = .ok o ∧ effect = o.effect s := by
  rw [apply_eq_outcome]
  cases st.outcome s.get? with
  | error f => simp [Functor.map, Except.map]
  | ok o => simp [Functor.map, Except.map, eq_comm]

/-- A statement fails on a store as it does in its scope. -/
theorem apply_eq_error_iff {s : Store} {st : Statement} {f : Fault} :
    st.apply s = .error f ↔ st.outcome s.get? = .error f := by
  rw [apply_eq_outcome]
  cases st.outcome s.get? <;> simp [Functor.map, Except.map]

end Statement

/-! ### Faults -/

/-- Whether a fault is about the form of a line. -/
def Fault.isSyntax : Fault → Bool
  | malformed .. => true
  | _ => false

/-- The faults about the form of a line are those of one code. -/
theorem Fault.isSyntax_iff (f : Fault) : f.isSyntax = true ↔ f.code = "E001" := by
  cases f with
  | malformed => exact iff_of_true rfl rfl
  | unbound => exact iff_of_false Bool.false_ne_true (by decide : ("E002" : Text) ≠ "E001")
  | unresolved => exact iff_of_false Bool.false_ne_true (by decide : ("E003" : Text) ≠ "E001")
  | divisionByZero => exact iff_of_false Bool.false_ne_true (by decide : ("E004" : Text) ≠ "E001")
  | badCount => exact iff_of_false Bool.false_ne_true (by decide : ("E005" : Text) ≠ "E001")
  | mismatch => exact iff_of_false Bool.false_ne_true (by decide : ("E006" : Text) ≠ "E001")

/-- A line that cannot be read is malformed as its kind, and the fault holds the line. -/
theorem Statement.eq_malformed_of_parse {line : Text} {f : Fault} (h : parse line = .error f) :
    f = .malformed (StatementKind.classify line) line := by
  unfold parse at h
  split at h
  case h_1 hk =>
    cases h
    rw [hk]
  case h_2 k hk =>
    split at h <;> cases h
    rw [hk]

theorem Statement.exists_malformed_of_parse {line : Text} {f : Fault} (h : parse line = .error f) :
    ∃ kind, f = .malformed kind line := ⟨_, eq_malformed_of_parse h⟩

theorem Statement.isSyntax_of_parse {line : Text} {f : Fault} (h : parse line = .error f) :
    f.isSyntax = true := by
  obtain ⟨kind, rfl⟩ := exists_malformed_of_parse h
  rfl

theorem Scope.isSyntax_of_lookup {scope : Scope} {name : Text} {f : Fault}
    (h : scope.lookup name = .error f) : f.isSyntax = false := by
  unfold lookup at h
  split at h <;> cases h
  rfl

theorem Scope.isSyntax_of_resolve {scope : Scope} {expression : Text} {f : Fault}
    (h : scope.resolve expression = .error f) : f.isSyntax = false := by
  unfold resolve at h
  split at h
  case h_1 => cases h
  case h_2 =>
    split at h
    · exact isSyntax_of_lookup h
    · cases h; rfl

theorem Value.eq_of_numeric {op : Operator} {g : Number → Number → Number} {v w : Value} {f : Fault}
    (h : numeric op g v w = .error f) : f = .mismatch op v.type w.type := by
  cases v <;> cases w <;> simp only [numeric] at h <;> cases h <;> rfl

/-- Arithmetic fails for a zero divisor or for the types of its operands only. -/
theorem Value.error_cases_of_calculate {op : Operator} {v w : Value} {f : Fault}
    (h : calculate op v w = .error f) : f = .divisionByZero ∨ f = .mismatch op v.type w.type := by
  cases op with
  | add =>
    simp only [calculate, add] at h
    split at h
    · cases h
    · cases h
    · exact .inr (eq_of_numeric h)
  | sub => exact .inr (eq_of_numeric h)
  | mult => exact .inr (eq_of_numeric h)
  | div =>
    simp only [calculate, div] at h
    split at h
    · cases h; exact .inl rfl
    · exact .inr (eq_of_numeric h)

theorem Value.isSyntax_of_calculate {op : Operator} {v w : Value} {f : Fault}
    (h : calculate op v w = .error f) : f.isSyntax = false := by
  rcases error_cases_of_calculate h with rfl | rfl <;> rfl

/-- A statement that was read is not malformed. -/
theorem Statement.isSyntax_of_outcome {scope : Scope} {st : Statement} {f : Fault}
    (h : st.outcome scope = .error f) : f.isSyntax = false := by
  cases st with
  | declare name e =>
    rcases error_cases_of_bind h with h | ⟨_, _, h⟩
    · exact Scope.isSyntax_of_resolve h
    · cases h
  | shout e =>
    simp only [outcome] at h
    split at h
    · cases h
    · rcases error_cases_of_bind h with h | ⟨_, _, h⟩
      · exact Scope.isSyntax_of_lookup h
      · cases h
  | arithmetic op target source e =>
    rcases error_cases_of_bind h with h | ⟨_, _, h⟩
    · exact Scope.isSyntax_of_lookup h
    · rcases error_cases_of_bind h with h | ⟨_, _, h⟩
      · exact Scope.isSyntax_of_resolve h
      · rcases error_cases_of_bind h with h | ⟨_, _, h⟩
        · exact Value.isSyntax_of_calculate h
        · cases h
  | grind e =>
    rcases error_cases_of_bind h with h | ⟨_, _, h⟩
    · exact Scope.isSyntax_of_resolve h
    · split at h <;> cases h
      rfl
  | compare name e =>
    rcases error_cases_of_bind h with h | ⟨_, _, h⟩
    · exact Scope.isSyntax_of_lookup h
    · rcases error_cases_of_bind h with h | ⟨_, _, h⟩
      · exact Scope.isSyntax_of_resolve h
      · cases h
  | keep name e =>
    rcases error_cases_of_bind h with h | ⟨_, _, h⟩
    · exact Scope.isSyntax_of_resolve h
    · cases h

end VibeScript
