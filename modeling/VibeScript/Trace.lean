import VibeScript.Execution

/-!
Tracing a program line by line: the run of its first line, of its first two lines, and so on, each
with the lines that it prints beyond the run before it.
-/

namespace VibeScript

/-- A run, and what it prints beyond the run before it. -/
structure TraceStep where
  printed : List Text
  context : Context

namespace Trace

/-- The beginnings of a list that are longer than none, the shortest first. -/
def beginnings (lines : List Text) : List (List Text) :=
  (List.range lines.length).map fun n => lines.take (n + 1)

/-- The steps of runs, given how many lines the run before them printed. -/
def steps (before : Nat) : List Context → List TraceStep
  | [] => []
  | c :: cs => ⟨c.output.drop before, c⟩ :: steps c.output.length cs

end Trace

/-- The steps of a program given by its lines. -/
def trace (lines : List Text) : List TraceStep :=
  Trace.steps 0 ((Trace.beginnings lines).map fun ls => execute (['\n'].intercalate ls))

end VibeScript
