import VibeScript.Proofs.Kinds
import VibeScript.Proofs.Remarks

/-!
Faults that no program meets. A line of a source has no line break in it, and no blank ends it once
it is trimmed (`Source.tail_text`). So there is something behind the gap of a line that opens as a
`shout` or a `grind`, and any such line can be read (`exists_parse_of_opens`); and what is read of a
line has an expression that is not empty (`expression_ne_nil_of_parse`).

The faults that are left are `Possible`. A line that fails has a possible fault
(`possible_of_carryOut`), and so has a run, since it fails at one of its lines; no check reports the
others either (`unreached_faults`).
-/

namespace VibeScript

open Text (isBlank)

/-! ### Lines of a source -/

theorem Source.tail_text {source : Text} {l : SourceLine} (h : l ∈ lines source) :
    Text.Tail l.text := by
  obtain ⟨before, after, hlines⟩ := List.append_of_mem h
  obtain ⟨d, _, _, rfl, _⟩ := exists_division hlines
  exact Text.tail_trim d.raw_oneLine

/-- A text that no blank ends does not consist of blanks. -/
theorem Text.Tail.dropWhile_ne_nil {t : Text} (h : Text.Tail t) (hne : t ≠ []) :
    t.dropWhile isBlank ≠ [] := by
  intro hcut
  have hall : (Blanks.first t).text = t := by
    have hfirst := Blanks.first_append t
    rwa [hcut, List.append_nil] at hfirst
  have hblank : isBlank (t.getLast hne) = true :=
    (Blanks.first t).blank _ (by rw [hall]; exact List.getLast_mem hne)
  rw [h.last _ (List.getLast?_eq_some_getLast hne)] at hblank
  cases hblank

namespace Statement

/-- A line that opens as a `shout` or a `grind` is one. -/
theorem exists_parse_of_opens {line : Text} (ht : Text.Tail line) {k : StatementKind}
    (hk : k = .shout ∨ k = .grind) (h : k.opens line = true) : ∃ st, parse line = .ok st := by
  obtain ⟨v, rfl⟩ := StatementKind.opens_iff.1 h
  have hrest : Text.Tail (' ' :: v) := ht.of_append
  have hne : v.dropWhile isBlank ≠ [] := by
    have := hrest.dropWhile_ne_nil (List.cons_ne_nil _ _)
    rwa [List.dropWhile_cons_of_pos rfl] at this
  have hv : Text.Tail v := Text.Tail.of_append (s := [' ']) hrest
  have hgap : gapExpression? (' ' :: v) = some (v.dropWhile isBlank) := by
    have hspace : isBlank ' ' = true := rfl
    rw [gapExpression?, if_pos hspace, expression?_of_tail hv, if_neg hne]
  rcases hk with rfl | rfl
  · exact ⟨_, parse_eq_ok_iff.2 ⟨_, h, by rw [List.drop_left, shape?, hgap]; rfl⟩⟩
  · exact ⟨_, parse_eq_ok_iff.2 ⟨_, h, by rw [List.drop_left, shape?, hgap]; rfl⟩⟩

/-- A statement on a line that no blank ends has an expression. -/
theorem expression_ne_nil_of_parse {line : Text} (ht : Text.Tail line) {st : Statement}
    (h : parse line = .ok st) : st.expression ≠ [] := by
  obtain ⟨s, _, rfl⟩ := exists_spelling_of_parse ht h
  cases s with
  | declare _ _ _ _ e => exact e.ne_nil
  | shout _ e => exact e.ne_nil
  | arithmetic _ _ _ _ _ _ e => exact e.ne_nil
  | grind _ e => exact e.ne_nil
  | compare _ _ _ _ e => exact e.ne_nil
  | keep _ _ _ _ e => exact e.ne_nil

end Statement

/-! ### What a fault is about -/

/-- The name or the expression that a fault is about. -/
def Fault.subject? : Fault → Option Text
  | unbound name => some name
  | unresolved expression => some expression
  | _ => none

section

variable {scope : Scope} {f : Fault}

theorem Scope.subject?_of_lookup {name : Text} (h : scope.lookup name = .error f) :
    f.subject? = some name := by
  unfold lookup at h
  split at h <;> cases h
  rfl

theorem Scope.subject?_of_resolve {e : Text} (h : scope.resolve e = .error f) :
    f.subject? = some (Text.trim e) := by
  unfold resolve at h
  split at h
  · cases h
  · split at h
    · exact subject?_of_lookup h
    · cases h
      rfl

/-- A fault of a statement is about one of its names or about its expression. -/
theorem Statement.mem_of_subject? {st : Statement} (he : Text.trim st.expression = st.expression)
    (h : st.outcome scope = .error f) {t : Text} (ht : f.subject? = some t) :
    t ∈ st.names ∨ t = st.expression := by
  have hname {name : Text} (h : scope.lookup name = .error f) : t = name := by
    rw [Scope.subject?_of_lookup h] at ht
    exact (Option.some.inj ht).symm
  have hexpression (h : scope.resolve st.expression = .error f) : t = st.expression := by
    rw [Scope.subject?_of_resolve h, he] at ht
    exact (Option.some.inj ht).symm
  cases st with
  | declare name e =>
    rcases error_cases_of_bind h with h | ⟨_, _, h⟩
    · exact .inr (hexpression h)
    · cases h
  | shout e =>
    simp only [outcome] at h
    split at h
    · cases h
    · rcases error_cases_of_bind h with h | ⟨_, _, h⟩
      · exact .inr (hname h)
      · cases h
  | arithmetic op target source e =>
    rcases error_cases_of_bind h with h | ⟨_, _, h⟩
    · exact .inl (by simp [names, hname h])
    · rcases error_cases_of_bind h with h | ⟨_, _, h⟩
      · exact .inr (hexpression h)
      · rcases error_cases_of_bind h with h | ⟨_, _, h⟩
        · rcases Value.error_cases_of_calculate h with rfl | rfl <;> cases ht
        · cases h
  | grind e =>
    rcases error_cases_of_bind h with h | ⟨_, _, h⟩
    · exact .inr (hexpression h)
    · split at h <;> cases h
      cases ht
  | compare name e =>
    rcases error_cases_of_bind h with h | ⟨_, _, h⟩
    · exact .inl (by simp [names, hname h])
    · rcases error_cases_of_bind h with h | ⟨_, _, h⟩
      · exact .inr (hexpression h)
      · cases h
  | keep name e =>
    rcases error_cases_of_bind h with h | ⟨_, _, h⟩
    · exact .inr (hexpression h)
    · cases h

end

/-! ### Possible faults -/

/-- What holds of the faults that a program can meet. -/
structure Fault.Possible (f : Fault) : Prop where
  /-- No line that opens as a `shout` or a `grind` is malformed. -/
  kind : ∀ k line, f = .malformed (some k) line → k ≠ .shout ∧ k ≠ .grind
  /-- Every name and every expression is something. -/
  subject : f.subject? ≠ some []

variable {source : Text} {l : SourceLine} {f : Fault}

theorem Statement.possible_of_parse {line : Text} (ht : Text.Tail line)
    (h : parse line = .error f) : f.Possible where
  kind k _ hf := by
    rw [eq_malformed_of_parse h] at hf
    have hopens := StatementKind.classify_eq_some_iff.1 (Fault.malformed.inj hf).1
    have hparse (hk : k = .shout ∨ k = .grind) : False := by
      obtain ⟨st, hst⟩ := exists_parse_of_opens ht hk hopens
      rw [h] at hst
      cases hst
    exact ⟨fun hk => hparse (.inl hk), fun hk => hparse (.inr hk)⟩
  subject := by
    rw [eq_malformed_of_parse h]
    exact nofun

theorem Statement.possible_of_outcome {line : Text} (ht : Text.Tail line) {st : Statement}
    (hst : parse line = .ok st) {scope : Scope} (h : st.outcome scope = .error f) :
    f.Possible where
  kind k line hf := by
    have hsyntax := isSyntax_of_outcome h
    rw [hf] at hsyntax
    cases hsyntax
  subject hf := by
    rcases mem_of_subject? (trim_of_parse hst) h hf with hname | he
    · exact absurd (isWord_of_parse hst _ hname) Bool.false_ne_true
    · exact expression_ne_nil_of_parse ht hst he.symm

/-- A line of a source that fails has a possible fault. -/
theorem Context.possible_of_carryOut {s : Store} (hl : l ∈ Source.lines source)
    (h : carryOut s l = .error f) : f.Possible := by
  rcases error_cases_of_carryOut h with h | ⟨st, hst, h⟩
  · exact Statement.possible_of_parse (Source.tail_text hl) h
  · exact Statement.possible_of_outcome (Source.tail_text hl) hst h

/-- A run ends with a possible fault, if with any. -/
theorem possible_of_execute {failure : Failure} (h : (execute source).failure = some failure) :
    failure.fault.Possible := by
  obtain ⟨before, l, after, fault, hls, _, hl, rfl⟩ := Context.exists_break rfl h
  have hmem : l ∈ Source.statementLines source := by rw [hls]; exact List.mem_append_cons_self
  exact Context.possible_of_carryOut (List.mem_filter.1 hmem).1 hl

/-- A check does not complain about a `shout` or a `grind`. -/
theorem not_complaint_of_mem_validate {file : Text} {d : Diagnostic} (hd : d ∈ validate source file)
    {k : StatementKind} (hk : k = .shout ∨ k = .grind) : ¬ k.complaint <+: d.message := by
  obtain ⟨before, l, after, hls, habout⟩ := Validation.mem_validate_iff.1 hd
  have hmem : l ∈ Source.statementLines source := by rw [hls]; exact List.mem_append_cons_self
  have htail := Source.tail_text (List.mem_filter.1 hmem).1
  intro h
  rcases habout with ⟨fault, hp, rfl⟩ | ⟨_, head, st, _, _, _, rfl⟩
  · obtain ⟨line, hfault⟩ : ∃ line, fault = .malformed (some k) line :=
      Fault.complaint_prefix_iff.1 h
    obtain ⟨hshout, hgrind⟩ := (Statement.possible_of_parse htail hp).kind k line hfault
    exact hk.elim hshout hgrind
  · have hlead : ("Indented line is not a body of `" : Text) <+:
        "Indented line is not a body of `" ++ st.kind.keyword ++ "` on line " ++
          Text.ofNat head.number ++ "; it runs once" := by
      simp only [List.append_assoc]
      exact List.prefix_append ..
    have hnone : ∀ kind ∈ StatementKind.all,
        Text.overlap kind.complaint "Indented line is not a body of `" = false := by
      decide +kernel
    have hoverlap := Text.overlap_of_prefix h hlead
    rw [hnone k (StatementKind.mem_all k)] at hoverlap
    cases hoverlap

/-- Some faults are met by no program. A line of a source that opens as a `shout` or a `grind` can
be read, so neither a run nor a check complains about one; every statement of a source has an
expression, without blanks at its ends; and so no run ends because a name or an expression that is
empty has no value. -/
theorem unreached_faults (source : Text) :
    (∀ l ∈ Source.lines source, ∀ k : StatementKind, k = .shout ∨ k = .grind →
      k.opens l.text = true → ∃ st, Statement.parse l.text = .ok st) ∧
    (∀ k : StatementKind, k = .shout ∨ k = .grind →
      (∀ f, (execute source).failure = some f → ¬ k.complaint <+: f.fault.message) ∧
      ∀ file, ∀ d ∈ validate source file, ¬ k.complaint <+: d.message) ∧
    (∀ l ∈ Source.lines source, ∀ st, Statement.parse l.text = .ok st →
      st.expression ≠ [] ∧ Text.trim st.expression = st.expression) ∧
    ∀ f, (execute source).failure = some f →
      f.fault ≠ .unresolved [] ∧ f.fault ≠ .unbound [] := by
  refine ⟨fun l hl k hk h => ?parse, fun k hk => ⟨fun f hf h => ?run, fun file d hd => ?check⟩,
    fun l hl st hst => ?expression, fun f hf => ?subject⟩
  case parse => exact Statement.exists_parse_of_opens (Source.tail_text hl) hk h
  case run =>
    obtain ⟨line, hfault⟩ : ∃ line, f.fault = .malformed (some k) line :=
      Fault.complaint_prefix_iff.1 h
    obtain ⟨hshout, hgrind⟩ := (possible_of_execute hf).kind k line hfault
    exact hk.elim hshout hgrind
  case check => exact not_complaint_of_mem_validate hd hk
  case expression =>
    exact ⟨Statement.expression_ne_nil_of_parse (Source.tail_text hl) hst,
      Statement.trim_of_parse hst⟩
  case subject =>
    have hsubject := (possible_of_execute hf).subject
    exact ⟨fun h => hsubject (by rw [h]; rfl), fun h => hsubject (by rw [h]; rfl)⟩

/-- Blanks of any sort may stand in front of an expression and behind it, and it is still there. -/
theorem unreached_faults_among_blanks :
    ∃ l ∈ Source.lines "grind\n\tshout \u3000b \r\n", StatementKind.opens .shout l.text = true ∧
      (∃ st, Statement.parse l.text = .ok st) ∧
      ∃ f, (execute "\tshout \u3000b \r\n").failure = some f ∧
        f.fault ≠ .unresolved [] ∧ f.fault ≠ .unbound [] ∧
        ¬ StatementKind.shout.complaint <+: f.fault.message := by
  let l : SourceLine := ⟨2, "\tshout \u3000b ", .ofLine 2 6 "\tshout \u3000b "⟩
  have hl : l ∈ Source.lines "grind\n\tshout \u3000b \r\n" := by decide +kernel
  have hopens : StatementKind.opens .shout l.text = true := by decide +kernel
  have hfails : (execute "\tshout \u3000b \r\n").failure ≠ none := by decide +kernel
  obtain ⟨f, hf⟩ := Option.ne_none_iff_exists'.1 hfails
  obtain ⟨hparse, _⟩ := unreached_faults "grind\n\tshout \u3000b \r\n"
  obtain ⟨_, hreport, _, hsubject⟩ := unreached_faults "\tshout \u3000b \r\n"
  obtain ⟨hunresolved, hunbound⟩ := hsubject f hf
  exact ⟨l, hl, hopens, hparse l hl .shout (.inl rfl) hopens, f, hf, hunresolved, hunbound,
    (hreport .shout (.inl rfl)).1 f hf⟩

end VibeScript
