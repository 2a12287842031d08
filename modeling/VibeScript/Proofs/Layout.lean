import VibeScript.Proofs.Correspondence
import VibeScript.Proofs.Lines
import VibeScript.Validation

/-!
Layout has no meaning. A run sees the lines with statements only, and of these only what stands
between the blanks at their ends, so sources with the same statements end alike, however they are
indented, spaced and commented (`execute_of_map_text`).

Line ends have no meaning either. A source with a carriage return in front of every line break
(`Text.withReturns`) has the same lines; each starts later in the source by one byte for every line
above it (`lines_withReturns`). So runs and checks say the same about it, and say it about the bytes
that are later by as much (`execute_withReturns`, `validate_withReturns`).
-/

namespace VibeScript

/-! ### The same statements -/

/-- Sources with the same statements end alike: with the same store and the same output, and without
failure or with the same fault about the same text. -/
theorem execute_of_map_text {source other : Text}
    (h : (Source.statementLines source).map SourceLine.text =
      (Source.statementLines other).map SourceLine.text) :
    (execute source).output = (execute other).output ∧
      (execute source).store = (execute other).store ∧
      (execute source).failure.map (fun f => (f.fault, f.text)) =
        (execute other).failure.map (fun f => (f.fault, f.text)) := by
  have hlines : List.Forall₂ (fun l m => SourceLine.text l = SourceLine.text m)
      (Source.statementLines source) (Source.statementLines other) := by
    rwa [← List.forall₂_eq_eq_eq, List.forall₂_map_left_iff, List.forall₂_map_right_iff] at h
  have hruns := (Context.Matches.start _).runFrom (fun _ _ hlm => hlm) hlines
  refine ⟨hruns.output, hruns.store, hruns.failure_eq_map fun l m hlm fault => ?_⟩
  simp [SourceLine.fail, hlm]

/-! ### Carriage returns -/

/-- The text with a carriage return in front of every line break. -/
def Text.withReturns (t : Text) : Text :=
  t.flatMap fun c => if c = '\n' then ['\r', '\n'] else [c]

/-- The same stretch of a source with a carriage return in each of the lines above: both ends are
later by as many bytes. -/
def Span.withReturns (s : Span) : Span := s.shift 0 (s.start.line - 1)

/-- The same line with a carriage return in each of the lines above. -/
def SourceLine.withReturns (l : SourceLine) : SourceLine := { l with span := l.span.withReturns }

/-- The same failure with a carriage return in each of the lines above. -/
def Failure.withReturns (f : Failure) : Failure := { f with span := f.span.withReturns }

/-- The same state with a carriage return in each of the lines above a failure. -/
def Context.withReturns (c : Context) : Context :=
  { c with failure := c.failure.map Failure.withReturns }

/-- The same diagnostic with a carriage return in each of the lines above. -/
def Diagnostic.withReturns (d : Diagnostic) : Diagnostic := { d with span := d.span.withReturns }

theorem Span.withReturns_ofLine (k offset : Nat) (t : Text) :
    (ofLine (k + 1) offset t).withReturns = ofLine (k + 1) (offset + k) t :=
  shift_ofLine 0 k (k + 1) offset t

@[simp] theorem SourceLine.text_withReturns (l : SourceLine) : l.withReturns.text = l.text := rfl

@[simp] theorem SourceLine.fail_withReturns (l : SourceLine) (fault : Fault) :
    l.withReturns.fail fault = (l.fail fault).withReturns := rfl

namespace Text

theorem withReturns_of_not_mem {r : Text} (hr : '\n' ∉ r) : withReturns r = r := by
  induction r with
  | nil => rfl
  | cons c r ih =>
    obtain ⟨hc, hr⟩ := not_or.1 (mt List.mem_cons.2 hr)
    have ih := ih hr
    simp_all [withReturns, Ne.symm hc]

theorem withReturns_line {r : Text} (hr : '\n' ∉ r) (rest : Text) :
    withReturns (r ++ '\n' :: rest) = (r ++ ['\r']) ++ '\n' :: withReturns rest := by
  have h := withReturns_of_not_mem hr
  simp only [withReturns, List.flatMap_append, List.flatMap_cons] at h ⊢
  simp [h]

end Text

namespace Source

theorem withoutReturns_concat (r : Text) : withoutReturns (r ++ ['\r']) = withoutReturns r := by
  simp [withoutReturns, Text.dropEndWhile]

/-- The lines behind `k` lines with a carriage return are later by `k` bytes, and then by one more
for each line among them. -/
theorem place_withReturns (k offset : Nat) (source : Text) :
    place (k + 1) (offset + k) (physicalLines (Text.withReturns source)) =
      (place (k + 1) offset (physicalLines source)).map SourceLine.withReturns := by
  induction source using lineInduction generalizing k offset with
  | empty => rfl
  | last r hr hne =>
    rw [Text.withReturns_of_not_mem hr, physicalLines_last hr hne, place_cons, place_cons,
      List.map_cons, SourceLine.withReturns, Span.withReturns_ofLine]
    rfl
  | line r rest hr ih =>
    have hr' : '\n' ∉ r ++ ['\r'] := by simp [hr]
    have hoffset : offset + k + Text.byteLength (r ++ ['\r']) + 1 =
        offset + Text.byteLength r + 1 + (k + 1) := by
      have hreturn : Text.byteLength ['\r'] = 1 := rfl
      rw [Text.byteLength_append, hreturn]
      omega
    rw [Text.withReturns_line hr, physicalLines_line hr', physicalLines_line hr, place_cons,
      place_cons, List.map_cons, hoffset, ih, withoutReturns_concat, SourceLine.withReturns,
      Span.withReturns_ofLine]

theorem lines_withReturns (source : Text) :
    lines (Text.withReturns source) = (lines source).map SourceLine.withReturns :=
  place_withReturns 0 0 source

theorem statementLines_withReturns (source : Text) :
    statementLines (Text.withReturns source) =
      (statementLines source).map SourceLine.withReturns := by
  rw [statementLines, lines_withReturns, List.filter_map]
  rfl

end Source

/-- A run does the same with carriage returns, and fails later in the source. -/
theorem execute_withReturns (source : Text) :
    execute (Text.withReturns source) = (execute source).withReturns := by
  have hlines : List.Forall₂ (fun l m => m = SourceLine.withReturns l)
      (Source.statementLines source) (Source.statementLines (Text.withReturns source)) := by
    rw [Source.statementLines_withReturns, List.forall₂_map_right_iff, List.forall₂_same]
    intro l _
    rfl
  have hruns := (Context.Matches.start _).runFrom (by rintro l _ rfl; rfl) hlines
  have hfailure : (execute source).failure.map Failure.withReturns =
      (execute (Text.withReturns source)).failure.map id :=
    hruns.failure_eq_map (by rintro l _ rfl fault; rfl)
  rw [Option.map_id, id] at hfailure
  have houtput := hruns.output
  have hstore := hruns.store
  rw [← execute] at houtput hstore
  rw [Context.withReturns, hfailure, hstore, houtput]
  rfl

namespace Validation

/-- What is reported about a line is reported with carriage returns as well. -/
theorem remarks_withReturns (file : Text) (above : Option Opener) (l : SourceLine) :
    remarks file above l.withReturns = (remarks file above l).map Diagnostic.withReturns := by
  have herror : error? file l.withReturns = (error? file l).map Diagnostic.withReturns := by
    simp only [error?, SourceLine.text_withReturns]
    cases Statement.parse l.text <;> rfl
  have hindented : l.withReturns.isIndented = l.isIndented := rfl
  rw [remarks, remarks, herror, hindented, List.map_append]
  congr 1
  · cases error? file l <;> rfl
  · cases l.isIndented <;> cases above <;> rfl

theorem remarksFrom_withReturns (file : Text) (above : Option Opener) (ls : List SourceLine) :
    remarksFrom file above (ls.map SourceLine.withReturns) =
      (remarksFrom file above ls).map Diagnostic.withReturns := by
  induction ls generalizing above with
  | nil => rfl
  | cons l ls ih =>
    have hopener : openerBelow above l.withReturns = openerBelow above l := rfl
    rw [List.map_cons, remarksFrom, remarksFrom, remarks_withReturns, hopener, ih,
      List.map_append]

end Validation

/-- A check reports the same with carriage returns, later in the source. -/
theorem validate_withReturns (source file : Text) :
    validate (Text.withReturns source) file =
      (validate source file).map Diagnostic.withReturns := by
  rw [validate, Source.statementLines_withReturns, Validation.remarksFrom_withReturns]
  rfl

/-- Layout keeps the meaning of a program. Sources with the same statements, whatever stands around
them and between them, end with the same output and the same store, and with the same fault about
the same text or without failure. A source with a carriage return in front of every line break runs
and is checked as without, but that in each span on a line both ends are later by one byte for every
line above it. -/
theorem layout_keeps_meaning :
    (∀ source other : Text,
      (Source.statementLines source).map SourceLine.text =
        (Source.statementLines other).map SourceLine.text →
      (execute source).output = (execute other).output ∧
      (execute source).store = (execute other).store ∧
      (execute source).failure.map (fun f => (f.fault, f.text)) =
        (execute other).failure.map (fun f => (f.fault, f.text))) ∧
    ∀ source file : Text,
      execute (Text.withReturns source) = (execute source).withReturns ∧
      validate (Text.withReturns source) file =
        (validate source file).map Diagnostic.withReturns :=
  ⟨fun _ _ h => execute_of_map_text h,
    fun source file => ⟨execute_withReturns source, validate_withReturns source file⟩⟩

/-- Indents, a blank line, a comment and a carriage return around three statements, the last of
which fails: it does so with and without them. -/
theorem layout_of_three_statements :
    (Source.statementLines "vibe a = 1\nshout a\nshout b").map SourceLine.text =
      (Source.statementLines "\t vibe a = 1 \r\n\n// a\n  shout a\n\tshout b\r").map
        SourceLine.text ∧
    (execute "vibe a = 1\nshout a\nshout b").output = [("1" : Text)] ∧
    (execute "\t vibe a = 1 \r\n\n// a\n  shout a\n\tshout b\r").output = [("1" : Text)] ∧
    (execute "vibe a = 1\nshout a\nshout b").store =
      (execute "\t vibe a = 1 \r\n\n// a\n  shout a\n\tshout b\r").store ∧
    (execute "\t vibe a = 1 \r\n\n// a\n  shout a\n\tshout b\r").failure.map
      (fun f => (f.fault, f.text)) = some (Fault.unbound "b", ("shout b" : Text)) := by
  have htexts : (Source.statementLines "vibe a = 1\nshout a\nshout b").map SourceLine.text =
      (Source.statementLines "\t vibe a = 1 \r\n\n// a\n  shout a\n\tshout b\r").map
        SourceLine.text := by decide +kernel
  have houtput : (execute "vibe a = 1\nshout a\nshout b").output = [("1" : Text)] := by
    decide +kernel
  have hfailure : (execute "vibe a = 1\nshout a\nshout b").failure.map
      (fun f => (f.fault, f.text)) = some (Fault.unbound "b", ("shout b" : Text)) := by
    decide +kernel
  obtain ⟨hsame, hstore, hfault⟩ := layout_keeps_meaning.1 _ _ htexts
  exact ⟨htexts, houtput, hsame.symm.trans houtput, hstore, hfault.symm.trans hfailure⟩

/-- The malformed line on line three starts two bytes later. -/
example : (validate (Text.withReturns "vibe a = 1\n\nvibe") "f").map (fun d => d.span.start) =
    [⟨3, 1, 14⟩] := by decide +kernel

end VibeScript
