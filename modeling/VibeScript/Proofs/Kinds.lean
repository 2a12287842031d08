import VibeScript.Proofs.Outcome
import VibeScript.Proofs.Shapes

/-!
What the kind of a line decides. At most one kind has the opening that a line has, so the order in
which the kinds are tried does not matter (`find?_opens_of_perm`). A line that can be read is a
statement of its kind, and what is read of it stands in the line (`Statement.ReadFrom`). A line that
cannot be read is told of by its kind: no complaint begins as another one, nor as any other message
(`complaint_prefix_iff`), so the message tells the kind back (`Fault.Rejects`).

This is so for every text (`read_by_kind`), also for one with blanks at its ends or with line breaks
in it, which no source has for a line.
-/

namespace VibeScript

/-! ### The order of the kinds -/

/-- The kinds may be tried in any order. -/
theorem StatementKind.find?_opens_of_perm {table : List StatementKind} (h : table.Perm all)
    (line : Text) : table.find? (opens · line) = classify line := by
  cases hk : classify line with
  | none =>
    rw [List.find?_eq_none]
    intro k hk'
    exact List.find?_eq_none.1 hk k (mem_all k)
  | some k =>
    have hopens := classify_eq_some_iff.1 hk
    cases hfound : table.find? (opens · line) with
    | none => exact absurd hopens (List.find?_eq_none.1 hfound k (h.mem_iff.2 (mem_all k)))
    | some l => rw [opens_unique hopens (List.find?_some (p := (opens · line)) hfound)]

/-! ### Complaints -/

/-- Whether one of two texts begins the other. -/
def Text.overlap (s t : Text) : Bool := s.isPrefixOf t || t.isPrefixOf s

theorem Text.overlap_of_prefix {s t u : Text} (hs : s <+: u) (ht : t <+: u) :
    overlap s t = true := by
  rw [overlap, Bool.or_eq_true, List.isPrefixOf_iff_prefix, List.isPrefixOf_iff_prefix]
  exact List.prefix_or_prefix_of_prefix hs ht

namespace Fault

/-- How the message of a fault begins, whatever name, expression or value it is about. -/
def lead : Fault → Text
  | malformed kind _ => complaint kind
  | unbound _ => "Variable '"
  | unresolved _ => "Unknown value: "
  | divisionByZero => "Division by zero"
  | badCount _ => "Loop count must be a non-negative number, got "
  | mismatch .. => "Cannot "

theorem lead_prefix_message (f : Fault) : f.lead <+: f.message := by
  have append {s t : Text} (h : f.lead <+: s) : f.lead <+: s ++ t := h.trans (List.prefix_append ..)
  cases f with
  | malformed kind line => exact append (List.prefix_append ..)
  | unbound name => exact append (List.prefix_append ..)
  | unresolved e => exact List.prefix_append ..
  | divisionByZero => exact List.prefix_rfl
  | badCount found => exact List.prefix_append ..
  | mismatch op left right => exact append (append (append (append (List.prefix_append ..))))

/-- Every kind, and none. -/
def kinds : List (Option StatementKind) := none :: StatementKind.all.map some

theorem mem_kinds (kind : Option StatementKind) : kind ∈ kinds := by
  cases kind with
  | none => exact List.mem_cons_self
  | some k => exact List.mem_cons_of_mem _ (List.mem_map_of_mem (StatementKind.mem_all k))

/-- No complaint begins as another one. -/
theorem eq_of_overlap_complaint {c d : Option StatementKind}
    (h : Text.overlap (complaint c) (complaint d) = true) : c = d := by
  have hall : ∀ c ∈ kinds, ∀ d ∈ kinds,
      Text.overlap (complaint c) (complaint d) = true → c = d := by decide +kernel
  exact hall c (mem_kinds c) d (mem_kinds d) h

/-- No complaint begins as the message of another sort of fault. -/
theorem not_overlap_lead {f : Fault} (h : f.isSyntax = false) (kind : Option StatementKind) :
    Text.overlap (complaint kind) f.lead = false := by
  have hall : ∀ kind ∈ kinds, ∀ t ∈ [lead (unbound []), lead (unresolved []), lead divisionByZero,
      lead (badCount []), lead (mismatch .add .number .number)],
      Text.overlap (complaint kind) t = false := by decide +kernel
  refine hall kind (mem_kinds kind) f.lead ?_
  cases f with
  | malformed => cases h
  | unbound => exact .head _
  | unresolved => exact .tail _ (.head _)
  | divisionByZero => exact .tail _ (.tail _ (.head _))
  | badCount => exact .tail _ (.tail _ (.tail _ (.head _)))
  | mismatch => exact .tail _ (.tail _ (.tail _ (.tail _ (.head _))))

/-- The message tells whether a line is malformed, and as which kind. -/
theorem complaint_prefix_iff {kind : Option StatementKind} {f : Fault} :
    complaint kind <+: f.message ↔ ∃ line, f = .malformed kind line := by
  constructor
  · intro h
    have hlead := Text.overlap_of_prefix h f.lead_prefix_message
    cases hf : f.isSyntax with
    | false =>
      rw [not_overlap_lead hf] at hlead
      cases hlead
    | true =>
      cases f with
      | malformed d line => exact ⟨line, by rw [eq_of_overlap_complaint hlead]⟩
      | _ => cases hf
  · rintro ⟨line, rfl⟩
    exact lead_prefix_message (malformed kind line)

end Fault

/-! ### Lines -/

/-- What holds of a statement that is read from a line. -/
structure Statement.ReadFrom (line : Text) (st : Statement) : Prop where
  kind : StatementKind.classify line = some st.kind
  names : ∀ name ∈ st.names, Text.isWord name = true ∧ name <:+: line
  trimmed : Text.trim st.expression = st.expression
  oneLine : Text.OneLine st.expression
  expression : st.expression <:+: line

/-- What holds of the fault of a line that cannot be read. -/
structure Fault.Rejects (line : Text) (f : Fault) : Prop where
  eq_malformed : f = .malformed (StatementKind.classify line) line
  /-- The message begins with the complaint about the kind of the line, and with no other. -/
  complaint : ∀ kind, Fault.complaint kind <+: f.message ↔ StatementKind.classify line = kind

theorem Text.trim_infix (t : Text) : trim t <:+: t := by
  have hend : trim t <+: trimStart t := dropEndWhile_prefix isBlank _
  have hstart : trimStart t <:+ t := List.dropWhile_suffix isBlank
  exact hend.isInfix.trans hstart.isInfix

namespace Statement

/-- What is read as a part of a line stands in it. -/
theorem infix_of_parse {line : Text} {st : Statement} (h : parse line = .ok st) :
    (∀ name ∈ st.names, name <:+: line) ∧ st.expression <:+: line := by
  rw [parse_eq_captures] at h
  split at h
  · cases h
  · rename_i k _
    split at h
    · cases h
    · rename_i captured hcaptured
      cases h
      have hname : ∀ i, captured.getD i [] <:+: line := by
        intro i
        rw [List.getD_eq_getElem?_getD]
        cases hi : captured[i]? with
        | none => exact List.nil_infix
        | some u => exact infix_of_captures hcaptured u (List.mem_of_getElem? hi)
      have hexpression (i : Nat) : Text.trim (captured.getD i []) <:+: line :=
        (Text.trim_infix _).trans (hname i)
      cases k <;>
        simp only [StatementKind.fill, names, expression, List.forall_mem_cons, List.not_mem_nil,
          false_implies, implies_true, hname, hexpression, and_self]

theorem readFrom_of_parse {line : Text} {st : Statement} (h : parse line = .ok st) :
    st.ReadFrom line where
  kind := kind_of_parse h
  names name hname := ⟨isWord_of_parse h name hname, (infix_of_parse h).1 name hname⟩
  trimmed := trim_of_parse h
  oneLine := oneLine_of_parse h
  expression := (infix_of_parse h).2

theorem rejects_of_parse {line : Text} {f : Fault} (h : parse line = .error f) :
    f.Rejects line := by
  obtain rfl := eq_malformed_of_parse h
  refine ⟨rfl, fun kind => Fault.complaint_prefix_iff.trans ?_⟩
  constructor
  · rintro ⟨_, hkind⟩
    exact (Fault.malformed.inj hkind).1
  · rintro rfl
    exact ⟨line, rfl⟩

end Statement

/-- The kind of a line, which does not depend on the order of the kinds, decides by which shape it
is read. What is read is a statement of this kind, and its names, which are words, and its
expression, which lies on one line and has no blanks at its ends, are parts of the line. If nothing
is read, the fault holds the line, and its message tells the kind. -/
theorem read_by_kind (line : Text) :
    (∀ k l : StatementKind, k.opens line = true → l.opens line = true → k = l) ∧
    (∀ table : List StatementKind, table.Perm StatementKind.all →
      table.find? (·.opens line) = StatementKind.classify line) ∧
    (Statement.parse line =
      match StatementKind.classify line with
      | none => .error (.malformed none line)
      | some k =>
        match captures k.shape line with
        | none => .error (.malformed (some k) line)
        | some captured => .ok (k.fill captured)) ∧
    (∀ st, Statement.parse line = .ok st → st.ReadFrom line) ∧
    ∀ f, Statement.parse line = .error f → f.Rejects line :=
  ⟨fun _ _ => StatementKind.opens_unique, fun _ h => StatementKind.find?_opens_of_perm h line,
    Statement.parse_eq_captures line, fun _ => Statement.readFrom_of_parse,
    fun _ => Statement.rejects_of_parse⟩

/-- Blanks with a line break may stand between the parts of a line, but not where its expression
ends. If the last part is all blank, the expression is empty. -/
theorem read_by_kind_of_line_breaks :
    (Statement.arithmetic .mult "a" "b" []).ReadFrom "mult \n a b\n\t " ∧
      (StatementKind.all.reverse.find? (·.opens "mult \n a b\n\t ") =
        some (.arithmetic .mult)) ∧
      (Fault.malformed (some .grind) "grind 2\n").Rejects "grind 2\n" := by
  obtain ⟨_, horder, _, hread, _⟩ := read_by_kind "mult \n a b\n\t "
  obtain ⟨_, _, _, _, hrejected⟩ := read_by_kind "grind 2\n"
  exact ⟨hread _ rfl, horder _ (List.reverse_perm _), hrejected _ rfl⟩

end VibeScript
