import VibeScript.Proofs.Bindings
import VibeScript.Proofs.Correspondence
import VibeScript.Proofs.Lines

/-!
There is no hidden control flow. The lines of a loop, of a comparison and of a `shout` bind nothing
and skip nothing, so a program does the same when such lines are emptied, but for what these lines
would have printed (`execute_of_emptied`). Only the line at which a run fails has to stay.

The proof goes in two steps. The lines may be left out of a run: each leaves the store as it was, so
the run behind it is the run without it (`runFrom_without`). And emptying them in the source leaves
them out: what is left of them is no statement, and all other lines keep their numbers and their
texts (`Emptied.forall₂`).
-/

namespace VibeScript

/-- Whether statements of a kind only print. -/
def StatementKind.isReport : StatementKind → Bool
  | shout => true
  | grind => true
  | compare => true
  | declare => false
  | arithmetic _ => false
  | keep => false

/-- Whether a line opens as a statement that only prints. -/
def SourceLine.isReport (l : SourceLine) : Bool :=
  (StatementKind.classify l.text).any StatementKind.isReport

/-- The lines whose numbers are not listed. -/
def Source.without (numbers : List Nat) (ls : List SourceLine) : List SourceLine :=
  ls.filter (·.number ∉ numbers)

/-! ### Runs without some lines -/

theorem Statement.target?_of_isReport {st : Statement} (h : st.kind.isReport = true) :
    st.target? = none := by
  cases st <;> simp_all [kind, StatementKind.isReport, target?]

namespace Context

variable {c d : Context} {l : SourceLine}

/-- A line that only prints leaves the store as it was. -/
theorem store_of_isReport {s : Store} {effect : Effect} (hl : l.isReport = true)
    (h : carryOut s l = .ok effect) : effect.store = s := by
  obtain ⟨st, o, hp, ho, rfl, _, _⟩ := exists_outcome_of_carryOut h
  rw [SourceLine.isReport, Statement.kind_of_parse hp, Option.any_some] at hl
  have htarget := Statement.target?_eq_of_outcome ho
  rw [Statement.target?_of_isReport hl] at htarget
  cases hb : o.binding with
  | none => simp [Outcome.effect, hb]
  | some b => simp [hb] at htarget

/-- A line leaves it at the failure that there was, or fails itself. -/
theorem failure_step_cases (c : Context) (l : SourceLine) :
    (c.step l).failure = c.failure ∨ ∃ fault, (c.step l).failure = some (l.fail fault) := by
  cases hc : c.failure with
  | some f => exact .inl (by rw [step_failed hc, hc])
  | none =>
    rcases step_cases hc l with ⟨effect, _, hstep⟩ | ⟨fault, _, hstep⟩
    · exact .inl (by rw [hstep])
    · exact .inr ⟨fault, by rw [hstep]⟩

/-- A line that only prints and does not fail leaves the store as it was. -/
theorem store_step_of_isReport (hl : l.isReport = true) (h : (c.step l).failure = c.failure) :
    (c.step l).store = c.store := by
  cases hc : c.failure with
  | some f => rw [step_failed hc]
  | none =>
    rcases step_cases hc l with ⟨effect, hok, hstep⟩ | ⟨fault, _, hstep⟩
    · rw [hstep]
      exact store_of_isReport hl hok
    · simp [hstep, hc] at h

/-- What a line does depends on the store, and on whether there was a failure. -/
theorem step_congr (hstore : c.store = d.store) (hfailure : c.failure = d.failure)
    (l : SourceLine) :
    (c.step l).store = (d.step l).store ∧ (c.step l).failure = (d.step l).failure ∧
      c.printedBy l = d.printedBy l := by
  cases hc : c.failure with
  | some f =>
    have hd : d.failure = some f := hfailure ▸ hc
    simp [printedBy, step_failed hc, step_failed hd, hstore, hfailure]
  | none =>
    have hd : d.failure = none := hfailure ▸ hc
    rcases step_cases hc l with ⟨effect, hok, hstep⟩ | ⟨fault, herror, hstep⟩
    · have hok' : carryOut d.store l = .ok effect := hstore ▸ hok
      rw [printedBy_ok hc hok, printedBy_ok hd hok', hstep, step_ok hd hok']
      exact ⟨rfl, rfl, rfl⟩
    · have herror' : carryOut d.store l = .error fault := hstore ▸ herror
      rw [printedBy_error hc herror, printedBy_error hd herror', hstep, step_error hd herror']
      exact ⟨hstore, rfl, rfl⟩

/-- Lines that only print may be left out of a run that does not fail at one of them. It goes on
with the same store, ends with the same failure, and prints all but what these lines print. -/
theorem runFrom_without {numbers : List Nat} {ls : List SourceLine} (hstore : c.store = d.store)
    (hfailure : c.failure = d.failure) (hreport : ∀ l ∈ ls, l.number ∈ numbers → l.isReport = true)
    (hfail : ∀ f, (c.runFrom ls).failure = some f → f.line ∉ numbers) :
    (d.runFrom (Source.without numbers ls)).store = (c.runFrom ls).store ∧
      (d.runFrom (Source.without numbers ls)).failure = (c.runFrom ls).failure ∧
      d.log (Source.without numbers ls) = (c.log ls).filter (·.1 ∉ numbers) := by
  induction ls generalizing c d with
  | nil => exact ⟨hstore.symm, hfailure.symm, rfl⟩
  | cons l ls ih =>
    obtain ⟨hl, hls⟩ := List.forall_mem_cons.1 hreport
    by_cases hn : l.number ∈ numbers
    · rcases failure_step_cases c l with hsame | ⟨fault, hfault⟩
      · have hwithout : Source.without numbers (l :: ls) = Source.without numbers ls := by
          simp [Source.without, hn]
        have hprinted : ((c.printedBy l).map fun t => (l.number, t)).filter
            (·.1 ∉ numbers) = [] := by simp [hn]
        rw [hwithout, log, List.filter_append, hprinted]
        exact ih ((store_step_of_isReport (hl hn) hsame).trans hstore) (hsame.trans hfailure)
          hls hfail
      · -- A run that fails at this line has failed at a line left out.
        have hrun : (c.runFrom (l :: ls)).failure = some (l.fail fault) := by
          rw [runFrom_cons, runFrom_of_failed (by rw [hfault]; rfl), hfault]
        exact absurd hn (hfail _ hrun)
    · have hwithout : Source.without numbers (l :: ls) = l :: Source.without numbers ls := by
        simp [Source.without, hn]
      have hprinted : ((c.printedBy l).map fun t => (l.number, t)).filter (·.1 ∉ numbers) =
          (c.printedBy l).map fun t => (l.number, t) := by simp [hn]
      obtain ⟨hstores, hfailures, hprints⟩ := step_congr hstore hfailure l
      obtain ⟨hstore', hfailure', hlog⟩ := ih hstores hfailures hls hfail
      rw [hwithout, log, log, List.filter_append, hprinted, hlog, hprints]
      exact ⟨hstore', hfailure', rfl⟩

end Context

/-! ### Sources with some lines emptied -/

namespace Source

/-- Whether a text is what is left of a line: the line itself, or, if its number is listed, nothing
but carriage returns in front of the line break, as many as one likes. -/
inductive LeftOf (numbers : List Nat) (n : Nat) : Text → Text → Prop where
  | kept (hn : n ∉ numbers) (r : Text) : LeftOf numbers n r r
  | emptied (hn : n ∈ numbers) (r : Text) (k : Nat) : LeftOf numbers n r (List.replicate k '\r')

/-- Whether a source is another one in which the lines with listed numbers are emptied, where lines
are counted on from a number. -/
inductive Emptied (numbers : List Nat) : Nat → Text → Text → Prop where
  | last {n : Nat} {r r' : Text} (hr : '\n' ∉ r) (hleft : LeftOf numbers n r r') :
      Emptied numbers n r r'
  | line {n : Nat} {r r' rest rest' : Text} (hr : '\n' ∉ r) (hleft : LeftOf numbers n r r')
      (hrest : Emptied numbers (n + 1) rest rest') :
      Emptied numbers n (r ++ '\n' :: rest) (r' ++ '\n' :: rest')

variable {numbers : List Nat} {n : Nat} {r r' : Text}

theorem LeftOf.not_mem (h : LeftOf numbers n r r') (hr : '\n' ∉ r) : '\n' ∉ r' := by
  cases h with
  | kept => exact hr
  | emptied => simp

/-- Whether two lines have the same number and the same text. -/
def Same (l m : SourceLine) : Prop := l.number = m.number ∧ l.raw = m.raw

theorem Same.text_eq {l m : SourceLine} (h : Same l m) : l.text = m.text := by
  simp only [SourceLine.text, h.2]

/-- A line is a statement by its text. -/
theorem Same.isStatement_eq {l m : SourceLine} (h : Same l m) :
    l.isStatement = m.isStatement := by
  simp only [SourceLine.isStatement, h.text_eq]

/-- Of two lines with the same text both are statements, or neither. -/
theorem Same.forall₂ {l m : SourceLine} (h : Same l m) (hn : l.number ∉ numbers) :
    List.Forall₂ Same (without numbers ([l].filter SourceLine.isStatement))
      ([m].filter SourceLine.isStatement) := by
  have hstatement := h.isStatement_eq
  cases hm : m.isStatement <;> rw [hm] at hstatement <;> simp [without, hstatement, hm, hn, h]

theorem place_singleton (n offset : Nat) (r : Text) : place n offset [r] =
    [⟨n, withoutReturns r, .ofLine n offset (withoutReturns r)⟩] := rfl

/-- What is left of a line is the same statement, or none. -/
theorem LeftOf.forall₂ (h : LeftOf numbers n r r') (offset offset' : Nat) :
    List.Forall₂ Same
      (without numbers ((place n offset [r]).filter SourceLine.isStatement))
      ((place n offset' [r']).filter SourceLine.isStatement) := by
  rw [place_singleton, place_singleton]
  cases h with
  | kept hn => exact Same.forall₂ ⟨rfl, rfl⟩ hn
  | emptied hn r k =>
    have hraw : withoutReturns (List.replicate k '\r') = [] := by
      simp [withoutReturns, Text.dropEndWhile]
    have hempty : (⟨n, [], .ofLine n offset' []⟩ : SourceLine).isStatement = false := rfl
    simp [without, List.filter_filter, hn, hraw, hempty]

theorem place_cons_append (n offset : Nat) (r : Text) (ls : List Text) :
    place n offset (r :: ls) =
      place n offset [r] ++ place (n + 1) (offset + Text.byteLength r + 1) ls := rfl

/-- A text on one line holds the same statements as that line does. -/
theorem filter_place_last (n offset : Nat) (hr : '\n' ∉ r) :
    (place n offset (physicalLines r)).filter SourceLine.isStatement =
      (place n offset [r]).filter SourceLine.isStatement := by
  rw [← filter_place_break, physicalLines_line hr, physicalLines_nil]

/-- Where lines are emptied, the statements on all other lines stay, with their numbers. -/
theorem Emptied.forall₂ {source edited : Text} (h : Emptied numbers n source edited)
    (offset offset' : Nat) :
    List.Forall₂ Same
      (without numbers ((place n offset (physicalLines source)).filter SourceLine.isStatement))
      ((place n offset' (physicalLines edited)).filter SourceLine.isStatement) := by
  induction h generalizing offset offset' with
  | last hr hleft =>
    rw [filter_place_last _ _ hr, filter_place_last _ _ (hleft.not_mem hr)]
    exact hleft.forall₂ offset offset'
  | @line n r r' rest rest' hr hleft _ ih =>
    rw [physicalLines_line hr, physicalLines_line (hleft.not_mem hr), place_cons_append,
      place_cons_append n offset', List.filter_append, List.filter_append, without,
      List.filter_append]
    exact List.rel_append (hleft.forall₂ _ _) (ih _ _)

theorem exists_leftOf (numbers : List Nat) (n : Nat) (r : Text) :
    ∃ r', LeftOf numbers n r r' := by
  by_cases hn : n ∈ numbers
  · exact ⟨_, .emptied hn r 0⟩
  · exact ⟨r, .kept hn r⟩

/-- In every source the lines with listed numbers can be emptied. -/
theorem exists_emptied (numbers : List Nat) (n : Nat) (source : Text) :
    ∃ edited, Emptied numbers n source edited := by
  induction source using lineInduction generalizing n with
  | empty =>
    obtain ⟨r', hleft⟩ := exists_leftOf numbers n []
    exact ⟨r', .last List.not_mem_nil hleft⟩
  | last r hr _ =>
    obtain ⟨r', hleft⟩ := exists_leftOf numbers n r
    exact ⟨r', .last hr hleft⟩
  | line r rest hr ih =>
    obtain ⟨r', hleft⟩ := exists_leftOf numbers n r
    obtain ⟨rest', hrest⟩ := ih (n + 1)
    exact ⟨_, .line hr hleft hrest⟩

end Source

/-- There is no hidden control flow. Lines that only print, with the line at which the run fails not
among them, can be emptied, and however they are, the run ends with the same store, and without
failure or with the same fault at the same line. Of what the lines of the program print, it prints
all but what the emptied lines do, in the same order. -/
theorem execute_of_emptied {source : Text} {numbers : List Nat}
    (hreport : ∀ l ∈ Source.lines source, l.number ∈ numbers → l.isReport = true)
    (hfail : ∀ f, (execute source).failure = some f → f.line ∉ numbers) :
    (∃ edited, Source.Emptied numbers 1 source edited) ∧
    ∀ edited, Source.Emptied numbers 1 source edited →
      (execute edited).store = (execute source).store ∧
      (execute edited).failure.map (fun f => (f.line, f.text, f.fault)) =
        (execute source).failure.map (fun f => (f.line, f.text, f.fault)) ∧
      (execute source).output =
        (Context.start.log (Source.statementLines source)).map Prod.snd ∧
      (execute edited).output =
        ((Context.start.log (Source.statementLines source)).filter (·.1 ∉ numbers)).map
          Prod.snd := by
  refine ⟨Source.exists_emptied numbers 1 source, fun edited hedited => ?_⟩
  have hlines : List.Forall₂ Source.Same (Source.without numbers (Source.statementLines source))
      (Source.statementLines edited) := hedited.forall₂ 0 0
  have hstatements : ∀ l ∈ Source.statementLines source, l.number ∈ numbers → l.isReport = true :=
    fun l hl => hreport l (List.mem_filter.1 hl).1
  obtain ⟨hstore, hfailure, hlog⟩ :=
    Context.runFrom_without (d := .start) rfl rfl hstatements hfail
  have hmatch := Context.Matches.start Source.Same
  have hrun := hmatch.runFrom (fun _ _ hlm => hlm.text_eq) hlines
  have hprints := hmatch.log_eq (fun _ _ hlm => ⟨hlm.1, hlm.text_eq⟩) hlines
  refine ⟨hrun.store.symm.trans hstore, ?failure, ?output, ?edited⟩
  case failure =>
    have hsame := hrun.failure_eq_map (g := fun f => (f.line, f.text, f.fault))
      (h := fun f => (f.line, f.text, f.fault))
      fun l m hlm fault => by simp [SourceLine.fail, hlm.1, hlm.text_eq]
    rw [hfailure] at hsame
    exact hsame.symm
  case output => exact (Context.output_append_log .start _).symm
  case edited =>
    rw [← hlog, hprints]
    exact (Context.output_append_log .start _).symm

/-- A loop, a comparison and what stands behind the failing line are emptied: the loop with its
carriage return, the comparison without it. -/
theorem execute_of_emptied_loop :
    ∃ source edited : Text,
      source = "vibe n = 2\n grind n\r\nfr n same 3\r\nshout n\nadd n m 1\nshout n" ∧
      edited = "vibe n = 2\n\r\n\nshout n\nadd n m 1\n" ∧
      Source.Emptied [2, 3, 6] 1 source edited ∧
      (∀ l ∈ Source.lines source, l.number ∈ [2, 3, 6] → l.isReport = true) ∧
      (∀ f, (execute source).failure = some f → f.line ∉ [2, 3, 6]) ∧
      (execute edited).failure.map (fun f => (f.line, f.text, f.fault)) =
        some (5, ("add n m 1" : Text), Fault.unbound "m") ∧
      (execute source).output = [("Loop iteration 1" : Text), "Loop iteration 2",
        "Condition false: n (2) does not equal 3", "2"] ∧
      (execute edited).output = [("2" : Text)] := by
  have hedited : Source.Emptied [2, 3, 6] 1
      "vibe n = 2\n grind n\r\nfr n same 3\r\nshout n\nadd n m 1\nshout n"
      "vibe n = 2\n\r\n\nshout n\nadd n m 1\n" :=
    .line (r := "vibe n = 2") (by decide) (.kept (by decide) _) <|
    .line (r := " grind n\r") (by decide) (.emptied (by decide) _ 1) <|
    .line (r := "fr n same 3\r") (by decide) (.emptied (by decide) _ 0) <|
    .line (r := "shout n") (by decide) (.kept (by decide) _) <|
    .line (r := "add n m 1") (by decide) (.kept (by decide) _) <|
    .last (r := "shout n") (by decide) (.emptied (by decide) _ 0)
  have hreport : ∀ l ∈ Source.lines
      "vibe n = 2\n grind n\r\nfr n same 3\r\nshout n\nadd n m 1\nshout n",
      l.number ∈ [2, 3, 6] → l.isReport = true := by decide +kernel
  have hfailure : (execute
      "vibe n = 2\n grind n\r\nfr n same 3\r\nshout n\nadd n m 1\nshout n").failure.map
        (fun f => (f.line, f.text, f.fault)) =
      some (5, ("add n m 1" : Text), Fault.unbound "m") := by decide +kernel
  have hfail : ∀ f, (execute
      "vibe n = 2\n grind n\r\nfr n same 3\r\nshout n\nadd n m 1\nshout n").failure = some f →
        f.line ∉ [2, 3, 6] := by
    intro f hf
    rw [hf, Option.map_some, Option.some.injEq, Prod.mk.injEq] at hfailure
    rw [hfailure.1]
    decide
  obtain ⟨_, hsame, houtput, hedit⟩ := (execute_of_emptied hreport hfail).2 _ hedited
  refine ⟨_, _, rfl, rfl, hedited, hreport, hfail, hsame.trans hfailure, ?_, ?_⟩
  · rw [houtput]
    decide +kernel
  · rw [hedit]
    decide +kernel

end VibeScript
