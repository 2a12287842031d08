import VibeScript.Statement

/-!
What the parts of a line are that a statement is read from: the names of a statement are words, and
its expression lies on one line and has no blanks at its ends (`isWord_of_parse`,
`oneLine_of_parse`, `trim_of_parse`).
-/

namespace VibeScript

namespace Text

/-- Whether a text lies on one line. -/
def OneLine (t : Text) : Prop := '\n' ∉ t

instance (t : Text) : Decidable (OneLine t) := inferInstanceAs (Decidable ('\n' ∉ t))

theorem OneLine.append {s t : Text} (hs : OneLine s) (ht : OneLine t) : OneLine (s ++ t) :=
  fun h => (List.mem_append.1 h).elim hs ht

/-- What is part of one line lies on one line. -/
theorem OneLine.of_subset {s t : Text} (ht : OneLine t) (h : s ⊆ t) : OneLine s :=
  fun hs => ht (h hs)

theorem trimEnd_subset (t : Text) : trimEnd t ⊆ t := by
  have h : trimEnd t <+: t := dropEndWhile_prefix isBlank t
  exact h.subset

theorem trim_subset (t : Text) : trim t ⊆ t := fun _ h =>
  (List.dropWhile_suffix isBlank).subset (trimEnd_subset _ h)

end Text

namespace Statement

/-- The names that a statement gives a value or looks up as such. -/
def names : Statement → List Text
  | declare name _ => [name]
  | shout _ => []
  | arithmetic _ target source _ => [target, source]
  | grind _ => []
  | compare name _ => [name]
  | keep name _ => [name]

/-- The expression of a statement. -/
def expression : Statement → Text
  | declare _ expression => expression
  | shout expression => expression
  | arithmetic _ _ _ expression => expression
  | grind count => count
  | compare _ expression => expression
  | keep _ expression => expression

/-! ### The readers -/

theorem isWord_of_word? {t word rest : Text} (h : word? t = some (word, rest)) :
    Text.isWord word = true := by
  unfold word? at h
  split at h
  · cases h
  · rename_i w hne
    cases h
    have hall := List.all_takeWhile (p := Text.isWordChar) (l := t)
    cases hw : t.takeWhile Text.isWordChar with
    | nil => exact absurd hw hne
    | cons c w => rw [hw] at hall; simp only [Text.isWord, hall]; rfl

theorem isWord_of_gapWord? {t word rest : Text} (h : gapWord? t = some (word, rest)) :
    Text.isWord word = true := by
  obtain ⟨_, _, h⟩ := Option.bind_eq_some_iff.1 h
  exact isWord_of_word? h

theorem oneLine_of_expression? {t e : Text} (h : expression? t = some e) : Text.OneLine e := by
  unfold expression? at h
  split at h
  · split at h <;> cases h
    exact List.not_mem_nil
  · split at h <;> cases h
    rename_i hmem
    refine Text.OneLine.of_subset ?_ (Text.trimEnd_subset _)
    simpa [Text.OneLine] using hmem

/-- An expression is what is left of a text without the blanks at its ends. -/
theorem eq_trim_of_expression? {t e : Text} (h : expression? t = some e) : e = Text.trim t := by
  unfold expression? at h
  split at h
  · rename_i hcut
    split at h <;> cases h
    rw [Text.trim, Text.trimStart, hcut]
    rfl
  · split at h <;> cases h
    rfl

theorem exists_of_gapExpression? {t e : Text} (h : gapExpression? t = some e) :
    ∃ u, expression? u = some e := by
  unfold gapExpression? at h
  split at h
  · cases h
  · split at h
    · exact ⟨_, h⟩
    · cases h

/-- A word lies on one line. -/
theorem oneLine_of_isWord {t : Text} (h : Text.isWord t = true) : Text.OneLine t := by
  intro hmem
  simp only [Text.isWord, Bool.and_eq_true, List.all_eq_true] at h
  exact absurd (h.2 _ hmem) (by decide)

/-! ### The shapes -/

/-- The names of a shape are words, and its expression is read as one. -/
theorem parts_of_shape? {k : StatementKind} {t : Text} {st : Statement} (h : shape? k t = some st) :
    (∀ name ∈ st.names, Text.isWord name = true) ∧ ∃ u, expression? u = some st.expression := by
  cases k <;>
    simp only [shape?, Option.map_eq_map, Option.map_eq_some_iff, Option.bind_eq_bind,
      Option.bind_eq_some_iff, Option.pure_def, Option.some.injEq, Prod.exists] at h
  case declare =>
    obtain ⟨_, _, hname, _, _, _, he, rfl⟩ := h
    exact ⟨by simpa [names] using isWord_of_gapWord? hname, _, he⟩
  case shout =>
    obtain ⟨_, he, rfl⟩ := h
    exact ⟨by simp [names], exists_of_gapExpression? he⟩
  case arithmetic =>
    obtain ⟨_, _, htarget, _, _, hsource, _, he, rfl⟩ := h
    refine ⟨?_, exists_of_gapExpression? he⟩
    simpa [names] using ⟨isWord_of_gapWord? htarget, isWord_of_gapWord? hsource⟩
  case grind =>
    obtain ⟨_, he, rfl⟩ := h
    exact ⟨by simp [names], exists_of_gapExpression? he⟩
  case compare =>
    obtain ⟨_, _, hname, _, _, _, _, _, he, rfl⟩ := h
    exact ⟨by simpa [names] using isWord_of_gapWord? hname, exists_of_gapExpression? he⟩
  case keep =>
    obtain ⟨_, _, hname, _, _, _, _, _, he, rfl⟩ := h
    exact ⟨by simpa [names] using isWord_of_gapWord? hname, exists_of_gapExpression? he⟩

/-- A line that can be read has a shape. -/
theorem exists_shape_of_parse {line : Text} {st : Statement} (h : parse line = .ok st) :
    ∃ k t, shape? k t = some st := by
  unfold parse at h
  split at h
  · cases h
  · split at h
    · cases h
    · rename_i found hfound
      cases h
      exact ⟨_, _, hfound⟩

theorem isWord_of_parse {line : Text} {st : Statement} (h : parse line = .ok st) :
    ∀ name ∈ st.names, Text.isWord name = true := by
  obtain ⟨_, _, h⟩ := exists_shape_of_parse h
  exact (parts_of_shape? h).1

theorem oneLine_of_parse {line : Text} {st : Statement} (h : parse line = .ok st) :
    Text.OneLine st.expression := by
  obtain ⟨_, _, h⟩ := exists_shape_of_parse h
  obtain ⟨u, hu⟩ := (parts_of_shape? h).2
  exact oneLine_of_expression? hu

/-- The expression of a statement that was read has no blanks at its ends. -/
theorem trim_of_parse {line : Text} {st : Statement} (h : parse line = .ok st) :
    Text.trim st.expression = st.expression := by
  obtain ⟨_, _, h⟩ := exists_shape_of_parse h
  obtain ⟨u, hu⟩ := (parts_of_shape? h).2
  rw [eq_trim_of_expression? hu]
  exact Text.trim_eq_self (Text.head?_trim u) (Text.getLast?_trim u)

end Statement

end VibeScript
