import VibeScript.Proofs.Remarks

/-!
Lines that look like a body. A line that begins with more blanks than the loop or the comparison
right above it seems to belong to it, and a check is to say that it does not.

The numbers of lines are all different, so the warnings at a line are those about that line
(`warning_at_iff`). The line right above decides whether there is one only where it is not indented
itself. An indented line has no say, whatever it is: the nearest line above it that is not indented
decides (`deeper_line_warned_iff`). So what seems to be the body of an indented loop may be left
without a warning (`deeper_line_not_warned`).
-/

namespace VibeScript

namespace SourceLine

/-- The number of blanks that the line begins with. -/
def indent (l : SourceLine) : Nat := (l.raw.takeWhile fun c => c == ' ' || c == '\t').length

theorem isIndented_iff {l : SourceLine} : l.isIndented = true ↔ 0 < l.indent := by
  rw [isIndented, indent]
  cases l.raw with
  | nil => simp
  | cons c t => by_cases hc : (c == ' ' || c == '\t') = true <;> simp [hc]

end SourceLine

namespace Validation

/-! ### The warnings at a line -/

theorem ErrorAbout.code {file : Text} {l : SourceLine} {d : Diagnostic}
    (h : ErrorAbout file l d) : d.code = "E001" := by
  obtain ⟨_, _, rfl⟩ := h
  rfl

section Statements

variable {source file : Text} {before after : List SourceLine} {l : SourceLine} {d : Diagnostic}

theorem WarningAbout.code (h : WarningAbout file before l d) : d.code = "W001" := by
  obtain ⟨_, _, _, _, _, _, rfl⟩ := h
  rfl

theorem WarningAbout.line (h : WarningAbout file before l d)
    (hls : Source.statementLines source = before ++ l :: after) : d.line = l.number := by
  have hmem : l ∈ Source.statementLines source := hls ▸ List.mem_append_cons_self
  obtain ⟨_, _, _, _, _, _, rfl⟩ := h
  exact Source.line_of_mem_statementLines hmem

/-- The warnings with the number of a statement are those about that statement. -/
theorem warning_at_iff (hls : Source.statementLines source = before ++ l :: after) :
    (d ∈ validate source file ∧ d.code = "W001" ∧ d.line = l.number) ↔
      WarningAbout file before l d := by
  rw [mem_validate_iff]
  constructor
  · rintro ⟨⟨before', l', after', hls', hd | hd⟩, hcode, hline⟩
    · rw [hd.code] at hcode
      cases hcode
    · obtain ⟨rfl, rfl⟩ := Source.eq_of_number_eq hls hls' (hline.symm.trans (hd.line hls'))
      exact hd
  · intro hd
    exact ⟨⟨before, l, after, hls, .inr hd⟩, hd.code, hd.line hls⟩

end Statements

/-! ### Below a loop or a comparison -/

/-- Whether a line is a loop or a comparison. -/
def Opens (l : SourceLine) : Prop :=
  ∃ st, Statement.parse l.text = .ok st ∧ (st.kind = .grind ∨ st.kind = .compare)

/-- There is a warning about an indented line if the nearest line above is a loop or a
comparison. -/
theorem exists_warningAbout_iff {file : Text} {above : List SourceLine} {l : SourceLine} :
    (∃ d, WarningAbout file above l d) ↔
      l.isIndented = true ∧ ∃ head, Nearest above head ∧ Opens head := by
  constructor
  · rintro ⟨_, hl, head, st, hhead, hp, hkind, _⟩
    exact ⟨hl, head, hhead, st, hp, hkind⟩
  · rintro ⟨hl, head, hhead, st, hp, hkind⟩
    exact ⟨_, hl, head, st, hhead, hp, hkind, rfl⟩

/-- A loop or a comparison counts for the line below if it is not indented. Otherwise the nearest
line above it counts. -/
theorem exists_nearest_below_iff {above : List SourceLine} {l : SourceLine} (hl : Opens l) :
    (∃ head, Nearest (above ++ [l]) head ∧ Opens head) ↔
      l.isIndented = false ∨ ∃ head, Nearest above head ∧ Opens head := by
  simp only [nearest_concat]
  cases l.isIndented <;> simp [hl]

end Validation

open Validation

/-- Let a line begin with more blanks than the statement right above it, which is a loop or a
comparison. A check warns about the line exactly if the loop or the comparison is not indented, or
the nearest line above that one that is not indented is itself a loop or a comparison. -/
theorem deeper_line_warned_iff (source file : Text) {before after : List SourceLine}
    {p q : SourceLine} (hls : Source.statementLines source = before ++ p :: q :: after)
    (hp : Opens p) (hindent : p.indent < q.indent) :
    (∃ d ∈ validate source file, d.code = "W001" ∧ d.line = q.number) ↔
      p.isIndented = false ∨ ∃ head, Nearest before head ∧ Opens head := by
  have hq : q.isIndented = true := SourceLine.isIndented_iff.2 (by omega)
  rw [List.append_cons] at hls
  simp only [warning_at_iff hls]
  rw [exists_warningAbout_iff, exists_nearest_below_iff hp]
  exact and_iff_right hq

/-- Below an indented comparison in what seems to be the body of a loop there is a warning. -/
theorem deeper_line_warned_below_comparison :
    ∃ d ∈ validate "grind 2\n  fr x same 1\n    shout x" "f", d.code = "W001" ∧ d.line = 3 := by
  have hlines : Source.statementLines "grind 2\n  fr x same 1\n    shout x" =
      [⟨1, "grind 2", .ofLine 1 0 "grind 2"⟩] ++
        ⟨2, "  fr x same 1", .ofLine 2 8 "  fr x same 1"⟩ ::
        ⟨3, "    shout x", .ofLine 3 22 "    shout x"⟩ :: [] := by decide +kernel
  have hloop : Opens ⟨1, "grind 2", .ofLine 1 0 "grind 2"⟩ := ⟨.grind "2", rfl, .inl rfl⟩
  have hcomparison : Opens ⟨2, "  fr x same 1", .ofLine 2 8 "  fr x same 1"⟩ :=
    ⟨.compare "x" "1", rfl, .inr rfl⟩
  refine (deeper_line_warned_iff _ "f" hlines hcomparison (by decide)).2 (.inr ?_)
  exact ⟨_, ⟨[], [], rfl, rfl, by simp⟩, hloop⟩

/-- A loop that is indented below no other is not remembered, so there is no warning about the line
that seems to be its body. -/
theorem deeper_line_not_warned :
    ∃ p q, Source.statementLines "  grind 2\n    shout \"a\"" = [p, q] ∧ Opens p ∧
      p.indent < q.indent ∧ validate "  grind 2\n    shout \"a\"" "f" = [] := by
  refine ⟨⟨1, "  grind 2", .ofLine 1 0 "  grind 2"⟩,
    ⟨2, "    shout \"a\"", .ofLine 2 10 "    shout \"a\""⟩, by decide +kernel, ?_, by decide,
    by decide +kernel⟩
  exact ⟨.grind "2", rfl, .inl rfl⟩

end VibeScript
