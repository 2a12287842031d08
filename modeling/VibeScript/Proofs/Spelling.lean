import VibeScript.Proofs.Cutting
import VibeScript.Proofs.Reading

/-!
How statements are spelled. A statement is spelled by the words of its kind, its names and its
expression, with blanks between them. A `Spelling` says which blanks; that its names are words, that
gaps are where they have to be, and that an expression has no blanks at its ends is part of its
type.

Each part of a line is followed by something that cannot belong to it: blanks by the first character
of a name or of another word, a name by a blank or an equals sign. So a line can be cut in one way
only, and it has one spelling at most (`Spelling.line_inj`).
-/

namespace VibeScript

open Text (Stops isBlank isWordChar)

/-! ### The parts of a spelling -/

/-- A run of blanks, perhaps an empty one. -/
@[ext]
structure Blanks where
  text : Text
  blank : ∀ c ∈ text, isBlank c = true

/-- A run of blanks that is not empty. -/
@[ext]
structure Gap extends Blanks where
  ne_nil : text ≠ []

/-- The gap behind the words of a kind, which begins with a space. -/
@[ext]
structure KeywordGap extends Gap where
  head : text.head? = some ' '

/-- A name. -/
@[ext]
structure Name where
  text : Text
  isWord : Text.isWord text = true

/-- A text that is not empty and has no blanks at its ends. -/
@[ext]
structure Trimmed where
  text : Text
  ne_nil : text ≠ []
  head : ∀ c ∈ text.head?, isBlank c = false
  last : ∀ c ∈ text.getLast?, isBlank c = false

/-- The parts of a line that spells a statement, behind the words of its kind. -/
inductive Spelling where
  | declare (gap : KeywordGap) (name : Name) (before after : Blanks) (expression : Trimmed)
  | shout (gap : KeywordGap) (expression : Trimmed)
  | arithmetic (op : Operator) (gap : KeywordGap) (target : Name) (middle : Gap) (source : Name)
      (last : Gap) (expression : Trimmed)
  | grind (gap : KeywordGap) (count : Trimmed)
  | compare (gap : KeywordGap) (name : Name) (middle last : Gap) (expression : Trimmed)
  | keep (gap : KeywordGap) (name : Name) (middle last : Gap) (expression : Trimmed)

namespace Spelling

/-- The kind of the statement that is spelled. -/
def kind : Spelling → StatementKind
  | declare .. => .declare
  | shout .. => .shout
  | arithmetic op .. => .arithmetic op
  | grind .. => .grind
  | compare .. => .compare
  | keep .. => .keep

/-- The line behind the words of its kind. -/
def body : Spelling → Text
  | declare gap name before after e =>
    gap.text ++ (name.text ++ (before.text ++ ("=" ++ (after.text ++ e.text))))
  | shout gap e => gap.text ++ e.text
  | arithmetic _ gap target middle source last e =>
    gap.text ++ (target.text ++ (middle.text ++ (source.text ++ (last.text ++ e.text))))
  | grind gap e => gap.text ++ e.text
  | compare gap name middle last e =>
    gap.text ++ (name.text ++ (middle.text ++ ("same" ++ (last.text ++ e.text))))
  | keep gap name middle last e =>
    gap.text ++ (name.text ++ (middle.text ++ ("high" ++ (last.text ++ e.text))))

/-- The line. -/
def line (s : Spelling) : Text := s.kind.keyword ++ s.body

/-- The statement that is spelled. -/
def statement : Spelling → Statement
  | declare _ name _ _ e => .declare name.text e.text
  | shout _ e => .shout e.text
  | arithmetic op _ target _ source _ e => .arithmetic op target.text source.text e.text
  | grind _ e => .grind e.text
  | compare _ name _ _ e => .compare name.text e.text
  | keep _ name _ _ e => .keep name.text e.text

end Spelling

/-! ### Where the parts end -/

/-- No word character is blank. -/
theorem Text.isBlank_eq_false_of_isWordChar {c : Char} (h : isWordChar c = true) :
    isBlank c = false := by
  obtain ⟨hlow, hhigh⟩ := Text.toNat_of_isWordChar h
  simp only [isBlank, blankRanges, List.any_cons, List.any_nil, Bool.or_false, Bool.or_eq_false_iff,
    Bool.and_eq_false_iff, decide_eq_false_iff_not]
  omega

variable {t u u' : Text}

theorem Name.exists_cons (n : Name) : ∃ c w, n.text = c :: w ∧ isWordChar c = true := by
  obtain ⟨text, hword⟩ := n
  cases text with
  | nil => cases hword
  | cons c w =>
    simp only [Text.isWord, List.all_cons, Bool.and_eq_true] at hword
    exact ⟨c, w, rfl, hword.2.1⟩

/-- No blank goes on with a name. -/
theorem Name.stops_append (n : Name) (t : Text) : Stops isBlank (n.text ++ t) := by
  obtain ⟨c, w, htext, hc⟩ := n.exists_cons
  rw [htext, List.cons_append, Text.stops_cons]
  exact Text.isBlank_eq_false_of_isWordChar hc

/-- No name goes on with blanks, unless it does with what is behind them. -/
theorem Blanks.stops_append (b : Blanks) (ht : b.text = [] → Stops isWordChar t) :
    Stops isWordChar (b.text ++ t) := by
  obtain ⟨text, hblank⟩ := b
  cases text with
  | nil => exact ht rfl
  | cons c text =>
    rw [List.cons_append, Text.stops_cons, Bool.eq_false_iff]
    intro hword
    have hc := hblank c List.mem_cons_self
    rw [Text.isBlank_eq_false_of_isWordChar hword] at hc
    cases hc

/-- No name goes on with a gap. -/
theorem Gap.stops_append (g : Gap) (t : Text) : Stops isWordChar (g.text ++ t) :=
  g.toBlanks.stops_append fun h => absurd h g.ne_nil

/-- The blanks at the start of a text. -/
def Blanks.first (t : Text) : Blanks :=
  ⟨t.takeWhile isBlank, List.all_eq_true.1 List.all_takeWhile⟩

theorem Blanks.first_append (t : Text) : (first t).text ++ t.dropWhile isBlank = t :=
  List.takeWhile_append_dropWhile

/-- A blank and a run of blanks behind it. -/
def Gap.cons (c : Char) (hc : isBlank c = true) (b : Blanks) : Gap :=
  ⟨⟨c :: b.text, List.forall_mem_cons.2 ⟨hc, b.blank⟩⟩, List.cons_ne_nil c b.text⟩

theorem Gap.exists_cons (g : Gap) : ∃ c hc b, g = .cons c hc b := by
  obtain ⟨⟨text, hblank⟩, hne⟩ := g
  cases text with
  | nil => exact absurd rfl hne
  | cons c text =>
    obtain ⟨hc, htext⟩ := List.forall_mem_cons.1 hblank
    exact ⟨c, hc, ⟨text, htext⟩, rfl⟩

/-- The gap of a text that begins with a space does so too. -/
theorem Gap.exists_keywordGap {g : Gap} (h : (g.text ++ t).head? = some ' ') :
    ∃ gap : KeywordGap, gap.toGap = g := by
  obtain ⟨c, hc, b, rfl⟩ := g.exists_cons
  exact ⟨⟨.cons c hc b, h⟩, rfl⟩

theorem Blanks.append_inj {b b' : Blanks} (hu : Stops isBlank u) (hu' : Stops isBlank u')
    (h : b.text ++ u = b'.text ++ u') : b = b' ∧ u = u' := by
  obtain ⟨hb, hu⟩ := Text.run_append_inj b.blank hu b'.blank hu' h
  exact ⟨Blanks.ext hb, hu⟩

theorem Gap.append_inj {g g' : Gap} (hu : Stops isBlank u) (hu' : Stops isBlank u')
    (h : g.text ++ u = g'.text ++ u') : g = g' ∧ u = u' := by
  obtain ⟨hg, hu⟩ := Text.run_append_inj g.blank hu g'.blank hu' h
  exact ⟨Gap.ext hg, hu⟩

theorem KeywordGap.append_inj {g g' : KeywordGap} (hu : Stops isBlank u) (hu' : Stops isBlank u')
    (h : g.text ++ u = g'.text ++ u') : g = g' ∧ u = u' := by
  obtain ⟨hg, hu⟩ := Text.run_append_inj g.blank hu g'.blank hu' h
  exact ⟨KeywordGap.ext hg, hu⟩

theorem Name.wordChars (n : Name) : ∀ c ∈ n.text, isWordChar c = true := by
  have h := n.isWord
  rw [Text.isWord, Bool.and_eq_true] at h
  exact List.all_eq_true.1 h.2

theorem Name.append_inj {n n' : Name} (hu : Stops isWordChar u) (hu' : Stops isWordChar u')
    (h : n.text ++ u = n'.text ++ u') : n = n' ∧ u = u' := by
  obtain ⟨hn, hu⟩ := Text.run_append_inj n.wordChars hu n'.wordChars hu' h
  exact ⟨Name.ext hn, hu⟩

/-! ### One spelling for a line -/

/-- A name, a given word and an expression, each behind a gap, are told apart in one way. -/
theorem given_inj {given : Text} (hgiven : ∀ v, Stops isBlank (given ++ v)) {gap gap' : KeywordGap}
    {n n' : Name} {middle middle' last last' : Gap} {x x' : Trimmed}
    (h : gap.text ++ (n.text ++ (middle.text ++ (given ++ (last.text ++ x.text)))) =
      gap'.text ++ (n'.text ++ (middle'.text ++ (given ++ (last'.text ++ x'.text))))) :
    gap = gap' ∧ n = n' ∧ middle = middle' ∧ last = last' ∧ x = x' := by
  obtain ⟨rfl, hname⟩ := KeywordGap.append_inj (n.stops_append _) (n'.stops_append _) h
  obtain ⟨rfl, hmiddle⟩ := Name.append_inj (middle.stops_append _) (middle'.stops_append _) hname
  obtain ⟨rfl, hlast⟩ := Gap.append_inj (hgiven _) (hgiven _) hmiddle
  obtain ⟨rfl, hx⟩ := Gap.append_inj x.head x'.head (List.append_cancel_left hlast)
  exact ⟨rfl, rfl, rfl, rfl, Trimmed.ext hx⟩

namespace Spelling

/-- The rest of a line has one spelling of a kind at most. -/
theorem body_inj {s s' : Spelling} (hkind : s.kind = s'.kind) (h : s.body = s'.body) : s = s' := by
  cases s with
  | declare gap n before after x =>
    cases s' with
    | declare gap' n' before' after' x' =>
      have hblank (v : Text) : Stops isBlank ("=" ++ v) := Text.stops_cons.2 rfl
      have hword (v : Text) : Stops isWordChar ("=" ++ v) := Text.stops_cons.2 rfl
      obtain ⟨rfl, hname⟩ := KeywordGap.append_inj (n.stops_append _) (n'.stops_append _) h
      obtain ⟨rfl, hbefore⟩ := Name.append_inj (before.stops_append fun _ => hword _)
        (before'.stops_append fun _ => hword _) hname
      obtain ⟨rfl, hequals⟩ := Blanks.append_inj (hblank _) (hblank _) hbefore
      obtain ⟨rfl, hx⟩ := Blanks.append_inj x.head x'.head (List.append_cancel_left hequals)
      rw [Trimmed.ext hx]
    | _ => cases hkind
  | shout gap x =>
    cases s' with
    | shout gap' x' =>
      obtain ⟨rfl, hx⟩ := KeywordGap.append_inj x.head x'.head h
      rw [Trimmed.ext hx]
    | _ => cases hkind
  | arithmetic op gap n middle m last x =>
    cases s' with
    | arithmetic op' gap' n' middle' m' last' x' =>
      cases hkind
      obtain ⟨rfl, htarget⟩ := KeywordGap.append_inj (n.stops_append _) (n'.stops_append _) h
      obtain ⟨rfl, hmiddle⟩ :=
        Name.append_inj (middle.stops_append _) (middle'.stops_append _) htarget
      obtain ⟨rfl, hsource⟩ := Gap.append_inj (m.stops_append _) (m'.stops_append _) hmiddle
      obtain ⟨rfl, hlast⟩ := Name.append_inj (last.stops_append _) (last'.stops_append _) hsource
      obtain ⟨rfl, hx⟩ := Gap.append_inj x.head x'.head hlast
      rw [Trimmed.ext hx]
    | _ => cases hkind
  | grind gap x =>
    cases s' with
    | grind gap' x' =>
      obtain ⟨rfl, hx⟩ := KeywordGap.append_inj x.head x'.head h
      rw [Trimmed.ext hx]
    | _ => cases hkind
  | compare gap n middle last x =>
    cases s' with
    | compare gap' n' middle' last' x' =>
      obtain ⟨rfl, rfl, rfl, rfl, rfl⟩ := given_inj (fun _ => Text.stops_cons.2 rfl) h
      rfl
    | _ => cases hkind
  | keep gap n middle last x =>
    cases s' with
    | keep gap' n' middle' last' x' =>
      obtain ⟨rfl, rfl, rfl, rfl, rfl⟩ := given_inj (fun _ => Text.stops_cons.2 rfl) h
      rfl
    | _ => cases hkind

end Spelling

/-! ### Lines -/

/-- A line has the opening of a kind if it begins with its words and a space. -/
theorem StatementKind.opens_iff {k : StatementKind} {line : Text} :
    opens k line = true ↔ ∃ v, line = k.keyword ++ ' ' :: v := by
  rw [opens, List.isPrefixOf_iff_prefix, opening]
  constructor
  · rintro ⟨v, rfl⟩
    exact ⟨v, by rw [List.append_assoc, List.singleton_append]⟩
  · rintro ⟨v, rfl⟩
    exact ⟨v, by rw [List.append_assoc, List.singleton_append]⟩

namespace Spelling

theorem exists_body (s : Spelling) : ∃ v, s.body = ' ' :: v := by
  have hgap (gap : KeywordGap) (u : Text) : ∃ v, gap.text ++ u = ' ' :: v := by
    obtain ⟨w, hw⟩ := List.head?_eq_some_iff.1 gap.head
    exact ⟨w ++ u, by rw [hw, List.cons_append]⟩
  cases s <;> exact hgap _ _

/-- A spelling begins as the statements of its kind do. -/
theorem opens_line (s : Spelling) : s.kind.opens s.line = true := by
  obtain ⟨v, hv⟩ := s.exists_body
  exact StatementKind.opens_iff.2 ⟨v, by rw [line, hv]⟩

/-- A line has one spelling at most. -/
theorem line_inj {s s' : Spelling} (h : s.line = s'.line) : s = s' := by
  have hkind : s.kind = s'.kind := by
    have hopens := s'.opens_line
    rw [← h] at hopens
    exact StatementKind.opens_unique s.opens_line hopens
  rw [line, line, hkind] at h
  exact body_inj hkind (List.append_cancel_left h)

end Spelling

end VibeScript
