import VibeScript.Proofs.Agreement

/-!
What a check reports, and about which lines. Every line with a statement gets an error if it is
malformed (`ErrorAbout`), and behind it a warning if it is indented and the nearest line above that
is not indented is a loop or a comparison (`WarningAbout`). Nothing else is reported, and the order
is that of the lines (`Reported`).

The checker does not look back for the nearest line: it carries an opener along. The opener is what
that line makes of itself (`Remembers`), an indented line leaves both as they are, and any other
line takes the place of both (`Remembers.step`). So the checker reports what there is to report, and
nothing else is a report (`reported_iff`). One by one, its reports are the errors and the warnings
about single lines, given the lines above them (`mem_validate_iff`).
-/

namespace VibeScript

namespace Validation

/-! ### What there is to report -/

/-- Whether a line is the last of the lines above that are not indented. -/
def Nearest (above : List SourceLine) (head : SourceLine) : Prop :=
  ∃ far between, above = far ++ head :: between ∧ head.isIndented = false ∧
    ∀ m ∈ between, m.isIndented = true

/-- The error about a line that cannot be read. -/
def ErrorAbout (file : Text) (l : SourceLine) (d : Diagnostic) : Prop :=
  ∃ fault, Statement.parse l.text = .error fault ∧
    d = ⟨.error, "E001", fault.message, file, l.span, some l.text, fault.hint⟩

/-- The warning about an indented line that looks like part of a loop or a comparison. It names the
line that seems to be the head. -/
def WarningAbout (file : Text) (above : List SourceLine) (l : SourceLine) (d : Diagnostic) : Prop :=
  l.isIndented = true ∧ ∃ head st, Nearest above head ∧ Statement.parse head.text = .ok st ∧
    (st.kind = .grind ∨ st.kind = .compare) ∧
    d = ⟨.warning, "W001",
      "Indented line is not a body of `" ++ st.kind.keyword ++ "` on line " ++
        Text.ofNat head.number ++ "; it runs once",
      file, l.span, some l.text,
      some "`grind` only prints loop iterations and `fr` only reports the comparison"⟩

/-- The reports on lines below others: on each line its error, if it has one, and then its warning,
if it has one. -/
inductive Reported (file : Text) : List SourceLine → List SourceLine → List Diagnostic → Prop where
  | nil (above : List SourceLine) : Reported file above [] []
  | cons {above ls : List SourceLine} {l : SourceLine} {error warning : Option Diagnostic}
      {more : List Diagnostic} (herror : ∀ d, error = some d ↔ ErrorAbout file l d)
      (hwarning : ∀ d, warning = some d ↔ WarningAbout file above l d)
      (hmore : Reported file (above ++ [l]) ls more) :
      Reported file above (l :: ls) (error.toList ++ warning.toList ++ more)

/-- There is one report on lines at most. -/
theorem Reported.unique {file : Text} {above ls : List SourceLine} {ds es : List Diagnostic}
    (hds : Reported file above ls ds) (hes : Reported file above ls es) : ds = es := by
  induction hds generalizing es with
  | nil above => cases hes; rfl
  | cons herror hwarning _ ih =>
    cases hes with
    | cons herror' hwarning' hmore' =>
      have he := Option.ext fun d => (herror d).trans (herror' d).symm
      have hw := Option.ext fun d => (hwarning d).trans (hwarning' d).symm
      rw [he, hw, ih hmore']

/-- A report on lines is the error or the warning about one of them, given the lines above it. -/
theorem Reported.mem_iff {file : Text} {above ls : List SourceLine} {ds : List Diagnostic}
    (h : Reported file above ls ds) {d : Diagnostic} :
    d ∈ ds ↔ ∃ before l after, ls = before ++ l :: after ∧
      (ErrorAbout file l d ∨ WarningAbout file (above ++ before) l d) := by
  induction h with
  | nil above => simp
  | @cons above ls l error warning more herror hwarning _ ih =>
    rw [List.mem_append, List.mem_append, Option.mem_toList, Option.mem_toList, herror, hwarning,
      ih]
    constructor
    · rintro (hd | ⟨before, m, after, rfl, hd⟩)
      · exact ⟨[], l, ls, rfl, by rwa [List.append_nil]⟩
      · exact ⟨l :: before, m, after, rfl, by rwa [List.append_assoc] at hd⟩
    · rintro ⟨before, m, after, hls, hd⟩
      cases before with
      | nil =>
        obtain ⟨rfl, rfl⟩ := List.cons.inj hls
        rw [List.append_nil] at hd
        exact .inl hd
      | cons k before =>
        obtain ⟨rfl, rfl⟩ := List.cons.inj hls
        exact .inr ⟨before, m, after, rfl, by rwa [List.append_assoc]⟩

/-! ### The nearest line -/

/-- A line that is not indented is the nearest below it. An indented line leaves the nearest. -/
theorem nearest_concat {above : List SourceLine} {l head : SourceLine} :
    Nearest (above ++ [l]) head ↔ if l.isIndented then Nearest above head else head = l := by
  constructor
  · rintro ⟨far, between, hsplit, hhead, hbetween⟩
    rcases List.eq_nil_or_concat between with rfl | ⟨init, m, rfl⟩
    · obtain ⟨_, hl⟩ := List.append_inj' hsplit rfl
      obtain ⟨rfl, _⟩ := List.cons.inj hl
      rw [hhead]
      exact rfl
    · rw [List.concat_eq_append] at hsplit hbetween
      rw [← List.cons_append, ← List.append_assoc] at hsplit
      obtain ⟨habove, hl⟩ := List.append_inj' hsplit rfl
      obtain ⟨rfl, _⟩ := List.cons.inj hl
      obtain ⟨hinit, hl⟩ := List.forall_mem_append.1 hbetween
      rw [if_pos (hl l List.mem_cons_self)]
      exact ⟨far, init, habove, hhead, hinit⟩
  · intro h
    split at h
    case isTrue hl =>
      obtain ⟨far, between, rfl, hhead, hbetween⟩ := h
      refine ⟨far, between ++ [l], by simp, hhead, ?_⟩
      exact List.forall_mem_append.2 ⟨hbetween, by simpa using hl⟩
    case isFalse hl =>
      rw [h]
      exact ⟨above, [], rfl, by simpa using hl, by simp⟩

theorem not_nearest_nil (head : SourceLine) : ¬ Nearest [] head := by
  rintro ⟨far, between, h, _⟩
  simp at h

/-! ### The opener -/

/-- The opener that a line makes of itself. -/
def openerOf (l : SourceLine) : Option Opener :=
  match Statement.parse l.text with
  | .ok st => opener? st.kind l.number
  | .error _ => none

/-- Whether this is the opener that the nearest line above makes of itself. -/
def Remembers (above : List SourceLine) (opener : Option Opener) : Prop :=
  ∀ o, opener = some o ↔ ∃ head, Nearest above head ∧ openerOf head = some o

theorem remembers_nil : Remembers [] none := by
  intro o
  constructor
  · intro h
    cases h
  · rintro ⟨head, hhead, _⟩
    exact absurd hhead (not_nearest_nil head)

/-- Every line leaves the opener for the lines below it. -/
theorem Remembers.step {above : List SourceLine} {opener : Option Opener}
    (h : Remembers above opener) (l : SourceLine) :
    Remembers (above ++ [l]) (openerBelow opener l) := by
  intro o
  simp only [nearest_concat]
  rw [openerBelow]
  split
  case isTrue hl => exact h o
  case isFalse hl =>
    constructor
    · intro ho
      exact ⟨l, rfl, ho⟩
    · rintro ⟨head, rfl, ho⟩
      exact ho

theorem openerOf_eq_some_iff {l : SourceLine} {o : Opener} :
    openerOf l = some o ↔ ∃ st, Statement.parse l.text = .ok st ∧
      (st.kind = .grind ∨ st.kind = .compare) ∧ o = ⟨st.kind.keyword, l.number⟩ := by
  rw [openerOf]
  cases hp : Statement.parse l.text with
  | error fault => simp
  | ok st => cases hk : st.kind <;> simp [opener?, hk, eq_comm]

/-! ### What is reported -/

theorem error?_eq_some_iff {file : Text} {l : SourceLine} {d : Diagnostic} :
    error? file l = some d ↔ ErrorAbout file l d := by
  cases hp : Statement.parse l.text with
  | ok st =>
    rw [error?_of_ok hp]
    constructor
    · intro h
      cases h
    · rintro ⟨fault, hfault, _⟩
      rw [hp] at hfault
      cases hfault
  | error fault =>
    have hcode : fault.code = "E001" :=
      (Fault.isSyntax_iff fault).1 (Statement.isSyntax_of_parse hp)
    rw [error?_of_error hp, Failure.toDiagnostic, Option.some.injEq]
    constructor
    · rintro rfl
      exact ⟨fault, hp, by rw [← hcode]; rfl⟩
    · rintro ⟨fault', hfault, rfl⟩
      rw [hp] at hfault
      cases hfault
      rw [← hcode]
      rfl

theorem warning_eq_some_iff {file : Text} {above : List SourceLine} {opener : Option Opener}
    (h : Remembers above opener) {l : SourceLine} {d : Diagnostic} :
    (if l.isIndented then opener.map fun o => warning file o l else none) = some d ↔
      WarningAbout file above l d := by
  rw [WarningAbout]
  split
  case isFalse hl => simp [hl]
  case isTrue hl =>
    rw [Option.map_eq_some_iff]
    constructor
    · rintro ⟨o, ho, rfl⟩
      obtain ⟨head, hhead, hopener⟩ := (h o).1 ho
      obtain ⟨st, hp, hkind, rfl⟩ := openerOf_eq_some_iff.1 hopener
      exact ⟨hl, head, st, hhead, hp, hkind, rfl⟩
    · rintro ⟨_, head, st, hhead, hp, hkind, rfl⟩
      exact ⟨_, (h _).2 ⟨head, hhead, openerOf_eq_some_iff.2 ⟨st, hp, hkind, rfl⟩⟩, rfl⟩

/-- From a line on, the checker reports what there is to report if it remembers the right opener. -/
theorem reported_remarksFrom (file : Text) {above : List SourceLine} {opener : Option Opener}
    (h : Remembers above opener) (ls : List SourceLine) :
    Reported file above ls (remarksFrom file opener ls) := by
  induction ls generalizing above opener with
  | nil => exact .nil above
  | cons l ls ih =>
    have hline : remarks file opener l = (error? file l).toList ++
        (if l.isIndented then opener.map fun o => warning file o l else none).toList := by
      rw [remarks]
      split <;> rfl
    rw [remarksFrom, hline]
    exact .cons (fun _ => error?_eq_some_iff) (fun _ => warning_eq_some_iff h) (ih (h.step l))

/-- A check reports what there is to report about the single statements. -/
theorem mem_validate_iff {source file : Text} {d : Diagnostic} :
    d ∈ validate source file ↔ ∃ before l after,
      Source.statementLines source = before ++ l :: after ∧
        (ErrorAbout file l d ∨ WarningAbout file before l d) :=
  (reported_remarksFrom file remembers_nil _).mem_iff

end Validation

/-- A check reports on the lines that are neither blank nor comments, one after the other: the error
of each line that is malformed, and the warning of each indented line whose nearest line above
without indent is a loop or a comparison. It reports nothing else. The lines are numbered from one,
all of them counted. -/
theorem reported_iff (source file : Text) :
    (∀ ds, Validation.Reported file [] ((Source.lines source).filter fun l =>
        l.text != [] && !(['/', '/'].isPrefixOf l.text)) ds ↔ ds = validate source file) ∧
    (Source.lines source).map SourceLine.number =
      List.range' 1 (Source.physicalLines source).length := by
  have hlines : (Source.lines source).filter (fun l =>
      l.text != [] && !(['/', '/'].isPrefixOf l.text)) = Source.statementLines source := by
    refine List.filter_congr fun l _ => ?_
    rw [SourceLine.isStatement, SourceLine.isComment]
    cases l.text <;> rfl
  rw [hlines]
  refine ⟨fun ds => ?_, Source.map_number_place ..⟩
  have h := Validation.reported_remarksFrom file Validation.remembers_nil
    (Source.statementLines source)
  constructor
  · intro hds
    exact hds.unique h
  · rintro rfl
    exact h

/-- A malformed line below a loop is reported twice, and a malformed line that is not indented ends
what seems to be the body of the loop. Blank lines and comments are passed over. -/
theorem reported_below_loop :
    ∃ ds, Validation.Reported "f" [] ((Source.lines
        "grind 2\n// a\n\n  vibe\nvibe\n  shout x").filter fun l =>
          l.text != [] && !(['/', '/'].isPrefixOf l.text)) ds ∧
      ds.map (fun d => (d.code, d.line)) = [(("E001" : Text), 4), ("W001", 4), ("E001", 5)] :=
  ⟨_, ((reported_iff _ _).1 _).2 rfl, by decide +kernel⟩

end VibeScript
