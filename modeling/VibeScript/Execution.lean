import VibeScript.Expression
import VibeScript.Failure
import VibeScript.Statement
import VibeScript.Value.Arithmetic

/-!
Running a program: its lines are carried out once each, from top to bottom. There are no jumps and
no blocks; the first failure ends the run and keeps what was computed and printed before it.

A statement turns a store into an `Effect`, or into a fault and nothing else. A run is a fold of
`Context.step` over the lines, so the run of a source that goes on is the continued run of its
beginning (`runFrom_append`), and nothing changes a run that has failed (`runFrom_of_failed`).
-/

namespace VibeScript

/-- What a statement does when it succeeds: the store after it and the lines it prints. -/
structure Effect where
  store : Store
  printed : List Text

/-- No loop has more rounds than this: sixty-four bits hold no larger count. -/
def roundLimit : Nat := Nat.pow 2 64 - 1

/-- The number of lines that a count stands for. -/
def Value.count? : Value → Option Nat
  | .number n => n.ceiling?.map (min · roundLimit)
  | _ => none

namespace Statement

/-- The line that is printed in a round of a loop. -/
def roundLine (i : Nat) : Text := "Loop iteration " ++ Text.ofNat i

/-- The lines that a loop of `n` rounds prints. -/
def roundLines (n : Nat) : List Text := (List.range n).map fun i => roundLine (i + 1)

/-- The line that tells how a comparison ended. -/
def verdict (name : Text) (actual expected : Value) : Text :=
  if actual.same expected then
    "Condition true: " ++ name ++ " equals " ++ expected.text
  else
    "Condition false: " ++ name ++ " (" ++ actual.text ++ ") does not equal " ++ expected.text

/-- The line that tells which value is kept. -/
def keepLine (name : Text) (value : Value) : Text :=
  "Keeping " ++ name ++ " vibing high at " ++ value.text

/-- The text that is printed for an expression: a quoted text without its quotes, or the value of a
name. Numerals and booleans count as names here. -/
def shouted (s : Store) (expression : Text) : Except Fault Text :=
  match Expression.quoted? expression with
  | some inner => .ok inner
  | none => Value.text <$> s.lookup expression

/-- Carries out a statement. -/
def apply (s : Store) : Statement → Except Fault Effect
  | declare name expression => do
    let value ← s.resolve expression
    return ⟨s.bind name value, []⟩
  | shout expression => do
    let line ← shouted s expression
    return ⟨s, [line]⟩
  | arithmetic op target source expression => do
    let left ← s.lookup source
    let right ← s.resolve expression
    let result ← Value.calculate op left right
    return ⟨s.bind target result, []⟩
  | grind count => do
    let value ← s.resolve count
    match value.count? with
    | some n => return ⟨s, roundLines n⟩
    | none => throw (.badCount value.literal)
  | compare name expression => do
    let actual ← s.lookup name
    let expected ← s.resolve expression
    return ⟨s, [verdict name actual expected]⟩
  | keep name expression => do
    let value ← s.resolve expression
    return ⟨s.bind name value, [keepLine name value]⟩

end Statement

/-- The state of a run. -/
structure Context where
  store : Store
  output : List Text
  failure : Option Failure

namespace Context

/-- The state before the first line. -/
def start : Context := ⟨.empty, [], none⟩

/-- Whether no line has failed. -/
def isOk (c : Context) : Bool := c.failure.isNone

/-- Reads a line as a statement and carries it out. -/
def carryOut (s : Store) (l : SourceLine) : Except Fault Effect := do
  let statement ← Statement.parse l.text
  statement.apply s

/-- Goes on with a line that holds a statement, unless an earlier line has failed. -/
def step (c : Context) (l : SourceLine) : Context :=
  match c.failure with
  | some _ => c
  | none =>
    match carryOut c.store l with
    | .ok effect => ⟨effect.store, c.output ++ effect.printed, none⟩
    | .error fault => { c with failure := some (l.fail fault) }

/-- Goes on with lines that hold statements. -/
def runFrom (c : Context) (lines : List SourceLine) : Context := lines.foldl step c

/-- Going on with more lines is going on twice. -/
theorem runFrom_append (c : Context) (ls ms : List SourceLine) :
    c.runFrom (ls ++ ms) = (c.runFrom ls).runFrom ms := List.foldl_append

/-- A run that has failed stays as it is. -/
theorem runFrom_of_failed {c : Context} (h : c.failure.isSome) (ls : List SourceLine) :
    c.runFrom ls = c := by
  obtain ⟨f, hf⟩ := Option.isSome_iff_exists.1 h
  induction ls with
  | nil => rfl
  | cons l ls ih =>
    rw [runFrom, List.foldl_cons, step, hf]
    exact ih

end Context

/-- Runs a program. -/
def execute (source : Text) : Context := Context.start.runFrom (Source.statementLines source)

end VibeScript
