import VibeScript.Proofs.Grammar
import VibeScript.Proofs.Resolution
import VibeScript.Proofs.Unbound

/-!
Two ways lead from an expression to a printed line. One prints it as it stands: a quotation, or the
value of a name. The other finds its value, binds that to a name and prints the name. They go
different ways about it, for what is printed as it stands is looked up even if it is a numeral or a
boolean.

Where all bound names are words, as they are in every run, the two ways agree on every expression
but these (`shouted_eq_ok_iff`): the value of a name is found on both, and what is no word is bound
on neither. On a numeral or a boolean they differ if it is bound as a name.
-/

namespace VibeScript

open Expression

/-! ### States of runs -/

/-- Whether a run can come to a state: some lines of some source lead there. -/
def Context.Reachable (c : Context) : Prop :=
  ∃ source n, c = start.runFrom ((Source.statementLines source).take n)

theorem Context.Reachable.tidy {c : Context} (h : c.Reachable) : c.Tidy := by
  obtain ⟨source, n, rfl⟩ := h
  exact tidy_start.runFrom _

namespace Statement

variable {s : Store} {e line : Text} {v : Value}

/-! ### What is printed as it stands -/

theorem shouted_of_quotation (inner : Text) : shouted s ('"' :: (inner ++ ['"'])) = .ok inner := by
  rw [shouted, quoted?_eq_some_iff.2 rfl]

theorem shouted_of_get? (hquoted : quoted? e = none) (h : s.get? e = some v) :
    shouted s e = .ok v.text := by
  rw [shouted, hquoted, Store.lookup, h]
  rfl

/-- An expression can be printed as it stands if it is a quotation or a bound name. -/
theorem isOk_shouted_iff :
    (∃ line, shouted s e = .ok line) ↔
      (∃ inner, e = '"' :: (inner ++ ['"'])) ∨ (s.get? e).isSome := by
  cases hquoted : quoted? e with
  | some inner =>
    obtain rfl := quoted?_eq_some_iff.1 hquoted
    exact iff_of_true ⟨inner, shouted_of_quotation inner⟩ (.inl ⟨inner, rfl⟩)
  | none =>
    have hnone : ¬ ∃ inner, e = '"' :: (inner ++ ['"']) := by
      rw [not_exists]
      exact quoted?_eq_none_iff.1 hquoted
    rw [or_iff_right hnone]
    cases h : s.get? e with
    | some v => exact iff_of_true ⟨v.text, shouted_of_get? hquoted h⟩ rfl
    | none =>
      refine iff_of_false ?_ Bool.false_ne_true
      rintro ⟨line, hline⟩
      rw [shouted, hquoted, Store.lookup, h] at hline
      cases hline

/-- An expression that is neither a numeral nor a boolean is printed as it stands if and only if it
has a value, and the line is the text of the value. -/
theorem shouted_eq_ok_iff (hwords : ∀ name v, s.get? name = some v → Text.isWord name = true)
    (htrim : Text.trim e = e) (hbare : ¬ IsBare e) :
    shouted s e = .ok line ↔ ∃ v, s.resolve e = .ok v ∧ line = v.text := by
  obtain ⟨r, hr⟩ := Store.exists_resolved s e
  have hresolve : s.resolve e = r := Store.resolve_eq_iff.2 (by rwa [htrim])
  rw [hresolve]
  cases hr with
  | quotation inner =>
    rw [shouted_of_quotation]
    constructor
    · rintro ⟨⟩
      exact ⟨_, rfl, rfl⟩
    · rintro ⟨_, ⟨⟩, rfl⟩
      rfl
  | numeral h => exact absurd (.inl h) hbare
  | yes => exact absurd (.inr (.inl rfl)) hbare
  | no => exact absurd (.inr (.inr rfl)) hbare
  | bound hname h =>
    have hquoted := quoted?_of_isWord (Text.isWord_iff.2 hname.1)
    simp [shouted_of_get? hquoted h, eq_comm]
  | unbound hname h =>
    have hquoted := quoted?_of_isWord (Text.isWord_iff.2 hname.1)
    simp [shouted, hquoted, Store.lookup, h]
  | other hliteral hname =>
    -- A bound name would be a word.
    have hquoted : quoted? e = none :=
      quoted?_eq_none_iff.2 fun inner he => hliteral (.inl ⟨inner, he⟩)
    have h : s.get? e = none := by
      rw [Option.eq_none_iff_forall_ne_some]
      exact fun v hv => hname (Text.isWord_iff.1 (hwords e v hv))
    simp [shouted, hquoted, Store.lookup, h]

/-! ### Statements -/

variable {n : Text} {effect : Effect}

theorem apply_shout_iff :
    (shout e).apply s = .ok effect ↔ ∃ line, shouted s e = .ok line ∧ effect = ⟨s, [line]⟩ := by
  rw [apply]
  constructor
  · intro h
    obtain ⟨line, hline, heffect⟩ := exists_of_bind_ok h
    cases heffect
    exact ⟨line, hline, rfl⟩
  · rintro ⟨line, hline, rfl⟩
    rw [hline]
    rfl

theorem apply_declare_iff :
    (declare n e).apply s = .ok effect ↔
      ∃ v, s.resolve e = .ok v ∧ effect = ⟨s.bind n v, []⟩ := by
  rw [apply]
  constructor
  · intro h
    obtain ⟨v, hv, heffect⟩ := exists_of_bind_ok h
    cases heffect
    exact ⟨v, hv, rfl⟩
  · rintro ⟨v, hv, rfl⟩
    rw [hv]
    rfl

/-- An expression can be printed as it stands if it is a quotation or a bound name. -/
theorem shout_ok_iff : (∃ effect, (shout e).apply s = .ok effect) ↔
    (∃ inner, e = '"' :: (inner ++ ['"'])) ∨ (s.get? e).isSome := by
  rw [← isOk_shouted_iff]
  constructor
  · rintro ⟨effect, h⟩
    obtain ⟨line, hline, _⟩ := apply_shout_iff.1 h
    exact ⟨line, hline⟩
  · rintro ⟨line, hline⟩
    exact ⟨_, apply_shout_iff.2 ⟨line, hline, rfl⟩⟩

theorem prints_iff {line : Text} :
    (shout e).apply s = .ok ⟨s, [line]⟩ ↔ shouted s e = .ok line := by
  rw [apply_shout_iff]
  constructor
  · rintro ⟨line, hline, ⟨⟩⟩
    exact hline
  · intro hline
    exact ⟨line, hline, rfl⟩

/-- Binding a value and printing the name prints the text of the value. -/
theorem declare_shout_iff (n : Name) :
    (∃ t, (declare n.text e).apply s = .ok ⟨t, []⟩ ∧
        (shout n.text).apply t = .ok ⟨t, [line]⟩) ↔
      ∃ v, s.resolve e = .ok v ∧ line = v.text := by
  have hshouted (v : Value) : shouted (s.bind n.text v) n.text = .ok v.text := by
    refine shouted_of_get? (quoted?_of_isWord n.isWord) ?_
    rw [Store.get?_bind, if_pos rfl]
  constructor
  · rintro ⟨t, hdeclare, hshout⟩
    obtain ⟨v, hv, ⟨⟩⟩ := apply_declare_iff.1 hdeclare
    rw [prints_iff, hshouted] at hshout
    cases hshout
    exact ⟨v, hv, rfl⟩
  · rintro ⟨v, hv, rfl⟩
    exact ⟨_, apply_declare_iff.2 ⟨v, hv, rfl⟩, prints_iff.2 (hshouted v)⟩

/-! ### Lines -/

/-- A line that spells a statement is read as it. -/
theorem parse_line (sp : Spelling) (h : Text.Tail sp.line) : parse sp.line = .ok sp.statement := by
  refine parse_eq_ok_iff.2 ⟨sp.kind, sp.opens_line, ?_⟩
  rw [Spelling.line, List.drop_left]
  exact shape?_body sp h.of_append

end Statement

/-- One space. -/
def KeywordGap.space : KeywordGap := ⟨⟨⟨[' '], List.forall_mem_singleton.2 rfl⟩, by decide⟩, rfl⟩

/-- The line that prints an expression. -/
theorem Statement.parse_shout_line (x : Trimmed) (hx : Text.OneLine x.text) :
    parse ("shout " ++ x.text) = .ok (.shout x.text) := by
  have htail : Text.Tail ("shout " ++ x.text) := by
    refine ⟨Text.OneLine.append (by decide) hx, fun c hc => ?_⟩
    rw [List.getLast?_append_of_ne_nil _ x.ne_nil] at hc
    exact x.last c hc
  exact parse_line (.shout .space x) htail

/-- The line that binds an expression to a name. -/
theorem Statement.parse_declare_line (n : Name) (x : Trimmed) (hx : Text.OneLine x.text) :
    parse ("vibe " ++ (n.text ++ (" = " ++ x.text))) = .ok (.declare n.text x.text) := by
  have htail : Text.Tail ("vibe " ++ (n.text ++ (" = " ++ x.text))) := by
    have hn := oneLine_of_isWord n.isWord
    refine ⟨.append (by decide) (hn.append (.append (by decide) hx)), fun c hc => ?_⟩
    rw [← List.append_assoc, ← List.append_assoc, List.getLast?_append_of_ne_nil _ x.ne_nil] at hc
    exact x.last c hc
  exact parse_line (.declare .space n KeywordGap.space.toBlanks KeywordGap.space.toBlanks x) htail

/-! ### Both ways -/

/-- What printing an expression as it stands has to do with its value, in a store. A run adds what
its statements print to its output. -/
structure Store.TwoWays (s : Store) (e : Text) : Prop where
  /-- A line prints the expression as it stands. -/
  shout_line : Statement.parse ("shout " ++ e) = .ok (.shout e)
  /-- A line binds its value to a name. -/
  declare_line : ∀ n : Name,
    Statement.parse ("vibe " ++ (n.text ++ (" = " ++ e))) = .ok (.declare n.text e)
  /-- It can be printed if and only if it is a quotation or a bound name. -/
  shout_ok_iff : (∃ effect, (Statement.shout e).apply s = .ok effect) ↔
    (∃ inner, e = '"' :: (inner ++ ['"'])) ∨ (s.get? e).isSome
  /-- A quotation has a value, and so has a bound name that is no literal; what is printed is the
  text of the value. -/
  prints_value : ∀ v, (∃ inner, e = '"' :: (inner ++ ['"']) ∧ v = .string inner) ∨
      IsName e ∧ s.get? e = some v →
    s.resolve e = .ok v ∧ (Statement.shout e).apply s = .ok ⟨s, [v.text]⟩
  /-- What is printed is the text of the value, if there are both, unless the expression is a
  numeral or a boolean and bound as a name. -/
  effect_eq : ∀ v effect, s.resolve e = .ok v → (Statement.shout e).apply s = .ok effect →
    effect = ⟨s, [v.text]⟩ ∨ IsBare e ∧ (s.get? e).isSome
  /-- All but numerals and booleans can be printed if and only if they can be bound. -/
  shout_ok_iff_declare_ok : ¬ IsBare e → ∀ n : Name,
    ((∃ effect, (Statement.shout e).apply s = .ok effect) ↔
      ∃ effect, (Statement.declare n.text e).apply s = .ok effect)
  /-- Printing the name that they have been bound to prints the same line. -/
  prints_iff : ¬ IsBare e → ∀ (n : Name) (line : Text),
    (Statement.shout e).apply s = .ok ⟨s, [line]⟩ ↔
      ∃ t, (Statement.declare n.text e).apply s = .ok ⟨t, []⟩ ∧
        (Statement.shout n.text).apply t = .ok ⟨t, [line]⟩

namespace Store

variable {s : Store} {e : Text} {v : Value} {effect : Effect}

theorem resolve_and_prints (htrim : Text.trim e = e)
    (hv : (∃ inner, e = '"' :: (inner ++ ['"']) ∧ v = .string inner) ∨
      IsName e ∧ s.get? e = some v) :
    s.resolve e = .ok v ∧ (Statement.shout e).apply s = .ok ⟨s, [v.text]⟩ := by
  rw [Statement.prints_iff, resolve_eq_iff, htrim]
  rcases hv with ⟨inner, rfl, rfl⟩ | ⟨hname, hget⟩
  · exact ⟨.quotation inner, Statement.shouted_of_quotation inner⟩
  · have hquoted := quoted?_of_isWord (Text.isWord_iff.2 hname.1)
    exact ⟨.bound hname hget, Statement.shouted_of_get? hquoted hget⟩

theorem effect_eq_or_isBare (hwords : ∀ name v, s.get? name = some v → Text.isWord name = true)
    (htrim : Text.trim e = e) (hv : s.resolve e = .ok v)
    (heffect : (Statement.shout e).apply s = .ok effect) :
    effect = ⟨s, [v.text]⟩ ∨ IsBare e ∧ (s.get? e).isSome := by
  by_cases hbare : IsBare e
  · refine .inr ⟨hbare, ?_⟩
    rcases Statement.shout_ok_iff.1 ⟨effect, heffect⟩ with ⟨inner, rfl⟩ | hget
    · exact absurd hbare (not_isBare_quotation inner)
    · exact hget
  · obtain ⟨line, hline, rfl⟩ := Statement.apply_shout_iff.1 heffect
    obtain ⟨w, hw, rfl⟩ := (Statement.shouted_eq_ok_iff hwords htrim hbare).1 hline
    rw [hv] at hw
    cases hw
    exact .inl rfl

end Store

/-- In every state of every run the two ways agree on every expression that a line can hold: a text
without blanks at its ends and on one line. -/
theorem twoWays_of_reachable {c : Context} (hc : c.Reachable) (x : Trimmed)
    (hx : Text.OneLine x.text) : c.store.TwoWays x.text := by
  have hwords : ∀ name v, c.store.get? name = some v → Text.isWord name = true :=
    hc.tidy.isWord_name
  have htrim : Text.trim x.text = x.text := Text.trim_eq_self x.head x.last
  have hshouted (hbare : ¬ IsBare x.text) {line : Text} :
      Statement.shouted c.store x.text = .ok line ↔
        ∃ v, c.store.resolve x.text = .ok v ∧ line = v.text :=
    Statement.shouted_eq_ok_iff hwords htrim hbare
  exact {
    shout_line := Statement.parse_shout_line x hx
    declare_line := fun n => Statement.parse_declare_line n x hx
    shout_ok_iff := Statement.shout_ok_iff
    prints_value := fun v hv => Store.resolve_and_prints htrim hv
    effect_eq := fun v effect hv heffect => Store.effect_eq_or_isBare hwords htrim hv heffect
    shout_ok_iff_declare_ok := by
      intro hbare n
      constructor
      · rintro ⟨_, h⟩
        obtain ⟨line, hline, _⟩ := Statement.apply_shout_iff.1 h
        obtain ⟨v, hv, _⟩ := (hshouted hbare).1 hline
        exact ⟨_, Statement.apply_declare_iff.2 ⟨v, hv, rfl⟩⟩
      · rintro ⟨_, h⟩
        obtain ⟨v, hv, _⟩ := Statement.apply_declare_iff.1 h
        exact ⟨_, Statement.prints_iff.2 ((hshouted hbare).2 ⟨v, hv, rfl⟩)⟩
    prints_iff := by
      intro hbare n line
      rw [Statement.prints_iff, hshouted hbare, Statement.declare_shout_iff] }

/-- A name is printed by both ways alike. The numeral five is not, if it is bound as a name. -/
theorem twoWays_beside_name_five :
    ∃ c : Context, c.Reachable ∧
      (Statement.shout "a").apply c.store = .ok ⟨c.store, [("b c" : Text)]⟩ ∧
      (∃ t, (Statement.declare "t" "a").apply c.store = .ok ⟨t, []⟩ ∧
        (Statement.shout "t").apply t = .ok ⟨t, [("b c" : Text)]⟩) ∧
      (Statement.shout "5").apply c.store = .ok ⟨c.store, [("b c" : Text)]⟩ ∧
      c.store.resolve "5" = .ok (.number (.ofNumeral "5")) := by
  let x : Trimmed := ⟨['a'], by decide, by rintro _ ⟨⟩; rfl, by rintro _ ⟨⟩; rfl⟩
  let c : Context := execute "vibe a = \"b c\"\nvibe 5 = a"
  have hc : c.Reachable := ⟨"vibe a = \"b c\"\nvibe 5 = a", 2, by rfl⟩
  have h := twoWays_of_reachable hc x (by decide)
  have hname : IsName x.text := by
    refine ⟨Text.isWord_iff.1 (by decide), ?_⟩
    rw [← literal?_eq_none_iff]
    decide +kernel
  have hprints := (h.prints_value (.string "b c") (.inr ⟨hname, by decide +kernel⟩)).2
  have hbare : ¬ IsBare x.text := fun hbare => hname.2 (.inr hbare)
  exact ⟨c, hc, hprints, (h.prints_iff hbare ⟨"t", by decide⟩ "b c").1 hprints, by rfl,
    by decide +kernel⟩

end VibeScript
