import VibeScript.Proofs.Run
import Mathlib.Data.List.Forall2

/-!
Two programs whose lines correspond. A run takes nothing from a line but its text, so two programs
whose lines have the same texts, one after the other, run alike wherever the lines stand: with the
same store and the same output, and if one of them fails, then so does the other, in the line that
corresponds and of the same fault (`Matches.runFrom`).

What a run prints can be told line by line (`log`). Programs whose lines have the same numbers and
the same texts print the same in the same lines (`Matches.log_eq`).
-/

namespace VibeScript

namespace Context

/-! ### Runs that match -/

/-- Whether two states match, where lines of one program correspond to lines of another. -/
structure Matches (R : SourceLine → SourceLine → Prop) (c d : Context) : Prop where
  store : c.store = d.store
  output : c.output = d.output
  /-- Neither has failed, or both have, of the same fault in lines that correspond. -/
  failure : Option.Rel (fun f g => ∃ l m fault, R l m ∧ f = l.fail fault ∧ g = m.fail fault)
    c.failure d.failure

theorem Matches.start (R : SourceLine → SourceLine → Prop) : Matches R start start :=
  ⟨rfl, rfl, .none⟩

theorem carryOut_congr {l m : SourceLine} (h : l.text = m.text) (s : Store) :
    carryOut s l = carryOut s m := by
  simp only [carryOut, h]

section

variable {R : SourceLine → SourceLine → Prop} {c d : Context}

/-- States that match still match behind lines that correspond. -/
theorem Matches.step (hR : ∀ l m, R l m → l.text = m.text) (h : Matches R c d) {l m : SourceLine}
    (hlm : R l m) : Matches R (c.step l) (d.step m) := by
  have hfailure := h.failure
  cases hc : c.failure with
  | some f =>
    cases hd : d.failure with
    | none => simp [hc, hd] at hfailure
    | some g => rwa [step_failed hc, step_failed hd]
  | none =>
    cases hd : d.failure with
    | some g => simp [hc, hd] at hfailure
    | none =>
      have hcarry := carryOut_congr (hR l m hlm) c.store
      rw [h.store] at hcarry
      rcases step_cases hd m with ⟨effect, hm, hstep⟩ | ⟨fault, hm, hstep⟩
      · rw [hstep, step_ok hc (by rw [h.store, hcarry, hm]), h.output]
        exact ⟨rfl, rfl, .none⟩
      · rw [hstep, step_error hc (by rw [h.store, hcarry, hm])]
        exact ⟨h.store, h.output, .some ⟨l, m, fault, hlm, rfl, rfl⟩⟩

/-- Programs whose lines correspond run alike. -/
theorem Matches.runFrom (hR : ∀ l m, R l m → l.text = m.text) (h : Matches R c d)
    {ls ms : List SourceLine} (hls : List.Forall₂ R ls ms) :
    Matches R (c.runFrom ls) (d.runFrom ms) := by
  induction hls generalizing c d with
  | nil => exact h
  | cons hlm _ ih => exact ih (h.step hR hlm)

/-- If it is known what to make of the failure in a line to get the failure in the line that
corresponds to it, then this is known of the runs. -/
theorem Matches.failure_eq_map {α : Type} {g h : Failure → α}
    (hR : ∀ l m, R l m → ∀ fault, g (l.fail fault) = h (m.fail fault)) (hcd : Matches R c d) :
    c.failure.map g = d.failure.map h := by
  have hfailure := hcd.failure
  cases hc : c.failure with
  | none => cases hd : d.failure <;> simp_all
  | some f =>
    cases hd : d.failure with
    | none => simp [hc, hd] at hfailure
    | some f' =>
      rw [hc, hd] at hfailure
      cases hfailure with
      | some hf =>
        obtain ⟨l, m, fault, hlm, rfl, rfl⟩ := hf
        simp [hR l m hlm fault]

end

/-! ### What is printed in which line -/

/-- What a line prints behind a state. -/
def printedBy (c : Context) (l : SourceLine) : List Text := (c.step l).output.drop c.output.length

/-- What lines print behind a state, each text with the number of the line that prints it. -/
def log (c : Context) : List SourceLine → List (Nat × Text)
  | [] => []
  | l :: ls => (c.printedBy l).map (fun t => (l.number, t)) ++ (c.step l).log ls

variable {c : Context}

theorem printedBy_ok (hc : c.failure = none) {l : SourceLine} {effect : Effect}
    (h : carryOut c.store l = .ok effect) : c.printedBy l = effect.printed := by
  simp [printedBy, step_ok hc h]

theorem printedBy_error (hc : c.failure = none) {l : SourceLine} {fault : Fault}
    (h : carryOut c.store l = .error fault) : c.printedBy l = [] := by
  simp [printedBy, step_error hc h]

/-- The output of a run is what its lines print. -/
theorem output_append_log (c : Context) (ls : List SourceLine) :
    c.output ++ (c.log ls).map Prod.snd = (c.runFrom ls).output := by
  induction ls generalizing c with
  | nil => simp [log]
  | cons l ls ih =>
    have hstep : c.output ++ c.printedBy l = (c.step l).output := by
      obtain ⟨more, hmore⟩ := output_prefix_runFrom c [l]
      simp only [runFrom_cons, runFrom_nil] at hmore
      simp [printedBy, ← hmore]
    simp [log, ← ih, ← hstep, Function.comp_def]

/-- Programs whose lines have the same numbers and texts print the same in the same lines. -/
theorem Matches.log_eq {R : SourceLine → SourceLine → Prop} {c d : Context}
    (hR : ∀ l m, R l m → l.number = m.number ∧ l.text = m.text) (h : Matches R c d)
    {ls ms : List SourceLine} (hls : List.Forall₂ R ls ms) : c.log ls = d.log ms := by
  induction hls generalizing c d with
  | nil => rfl
  | @cons l m ls ms hlm _ ih =>
    have hstep := h.step (fun l m hlm => (hR l m hlm).2) hlm
    simp only [log, printedBy, hstep.output, h.output, (hR l m hlm).1, ih hstep]

end Context

end VibeScript
