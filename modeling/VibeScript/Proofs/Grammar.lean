import VibeScript.Proofs.Spelling

/-!
Statements are read as they are spelled. Each reader takes a part of a line exactly where a spelling
has one: a gap, a name behind a gap, an expression at the end of the line. So a line is read as a
statement if and only if it spells this statement (`parse_eq_ok_iff_spelling`).

An expression of nothing but blanks is not spelled. It can be read, but not from a line that ends
with something else than a blank.
-/

namespace VibeScript

open Text (Stops isBlank isWordChar)

variable {t u : Text}

/-! ### The readers -/

/-- What a reader has before it: a text on one line that no blank ends. -/
structure Text.Tail (t : Text) : Prop where
  oneLine : Text.OneLine t
  last : ∀ c ∈ t.getLast?, isBlank c = false

theorem Text.Tail.of_append {s : Text} (h : Text.Tail (s ++ t)) : Text.Tail t where
  oneLine := h.oneLine.of_subset (List.subset_append_right ..)
  last c hc := h.last c (by rw [List.getLast?_append, Option.mem_def.1 hc]; rfl)

/-- What is left of one line without the blanks at its ends. -/
theorem Text.tail_trim (h : Text.OneLine t) : Text.Tail (Text.trim t) :=
  ⟨h.of_subset (Text.trim_subset t), Text.getLast?_trim t⟩

namespace Statement

theorem after?_eq_some_iff {given : Text} : after? given t = some u ↔ t = given ++ u := by
  rw [after?]
  constructor
  · intro h
    split at h
    · rename_i hprefix
      obtain ⟨rest, rfl⟩ := List.isPrefixOf_iff_prefix.1 hprefix
      rw [List.drop_left] at h
      cases h
      rfl
    · cases h
  · rintro rfl
    rw [if_pos (List.isPrefixOf_iff_prefix.2 (List.prefix_append ..)), List.drop_left]

theorem afterGap?_eq_some_iff :
    afterGap? t = some u ↔ Stops isBlank u ∧ ∃ g : Gap, t = g.text ++ u := by
  constructor
  · intro h
    cases t with
    | nil => cases h
    | cons c rest =>
      rw [afterGap?] at h
      split at h
      · rename_i hc
        cases h
        refine ⟨Text.stops_dropWhile _ _, .cons c hc (.first rest), ?_⟩
        rw [Gap.cons, List.cons_append, Blanks.first_append]
      · cases h
  · rintro ⟨hu, g, rfl⟩
    obtain ⟨c, hc, b, rfl⟩ := g.exists_cons
    rw [Gap.cons, List.cons_append, afterGap?, if_pos hc, Text.dropWhile_run b.blank hu]

theorem word?_eq_some_iff {word : Text} :
    word? t = some (word, u) ↔
      Stops isWordChar u ∧ ∃ n : Name, word = n.text ∧ t = n.text ++ u := by
  constructor
  · intro h
    have hword := isWord_of_word? h
    unfold word? at h
    split at h
    · cases h
    · cases h
      exact ⟨Text.stops_dropWhile _ _, ⟨_, hword⟩, rfl, List.takeWhile_append_dropWhile.symm⟩
  · rintro ⟨hu, n, rfl, rfl⟩
    obtain ⟨c, w, htext, _⟩ := n.exists_cons
    rw [word?, Text.takeWhile_run n.wordChars hu, Text.dropWhile_run n.wordChars hu, htext]

theorem gapWord?_eq_some_iff {word : Text} :
    gapWord? t = some (word, u) ↔
      Stops isWordChar u ∧ ∃ (g : Gap) (n : Name), word = n.text ∧ t = g.text ++ (n.text ++ u) := by
  rw [gapWord?, Option.bind_eq_some_iff]
  constructor
  · rintro ⟨v, hgap, hword⟩
    obtain ⟨_, g, rfl⟩ := afterGap?_eq_some_iff.1 hgap
    obtain ⟨hu, n, rfl, rfl⟩ := word?_eq_some_iff.1 hword
    exact ⟨hu, g, n, rfl, rfl⟩
  · rintro ⟨hu, g, n, rfl, rfl⟩
    exact ⟨_, afterGap?_eq_some_iff.2 ⟨n.stops_append u, g, rfl⟩,
      word?_eq_some_iff.2 ⟨hu, n, rfl, rfl⟩⟩

/-- At the end of a line an expression is all behind the blanks, and there has to be something. -/
theorem expression?_of_tail (ht : Text.Tail t) :
    expression? t = if t.dropWhile isBlank = [] then none else some (t.dropWhile isBlank) := by
  have hsplit := Blanks.first_append t
  have hrest : Text.Tail (t.dropWhile isBlank) := by
    rw [← hsplit] at ht
    exact ht.of_append
  unfold expression?
  split
  case h_1 hcut =>
    have hall : ∀ c ∈ t, isBlank c = true := by
      rw [hcut, List.append_nil] at hsplit
      rw [← hsplit]
      exact (Blanks.first t).blank
    rw [if_pos hcut]
    cases hlast : t.getLast? with
    | none => rfl
    | some c =>
      have hc := ht.last c hlast
      rw [hall c (List.mem_of_getLast? hlast)] at hc
      cases hc
  case h_2 hne =>
    have htrim := Text.trim_eq_self (Text.stops_dropWhile isBlank t) hrest.last
    rw [Text.trim, Text.trimStart, (Text.stops_dropWhile isBlank t).dropWhile_eq_self] at htrim
    rw [if_neg fun h => hne h, htrim, if_neg]
    exact fun h => hrest.oneLine (List.contains_iff_mem.1 h)

theorem expression?_eq_some_iff (ht : Text.Tail t) {e : Text} :
    expression? t = some e ↔ ∃ (b : Blanks) (x : Trimmed), e = x.text ∧ t = b.text ++ x.text := by
  rw [expression?_of_tail ht]
  constructor
  · intro h
    split at h
    · cases h
    · rename_i hne
      cases h
      have hsplit := Blanks.first_append t
      rw [← hsplit] at ht
      exact ⟨.first t, ⟨t.dropWhile isBlank, hne, Text.stops_dropWhile _ _, ht.of_append.last⟩,
        rfl, hsplit.symm⟩
  · rintro ⟨b, x, rfl, rfl⟩
    rw [Text.dropWhile_run b.blank x.head, if_neg x.ne_nil]

theorem gapExpression?_eq_some_iff (ht : Text.Tail t) {e : Text} :
    gapExpression? t = some e ↔ ∃ (g : Gap) (x : Trimmed), e = x.text ∧ t = g.text ++ x.text := by
  constructor
  · intro h
    cases t with
    | nil => cases h
    | cons c rest =>
      rw [gapExpression?] at h
      split at h
      · rename_i hc
        have hrest : Text.Tail rest := Text.Tail.of_append (s := [c]) ht
        obtain ⟨b, x, rfl, rfl⟩ := (expression?_eq_some_iff hrest).1 h
        exact ⟨.cons c hc b, x, rfl, rfl⟩
      · cases h
  · rintro ⟨g, x, rfl, rfl⟩
    obtain ⟨c, hc, b, rfl⟩ := g.exists_cons
    have hrest : Text.Tail (b.text ++ x.text) := Text.Tail.of_append (s := [c]) ht
    rw [Gap.cons, List.cons_append, gapExpression?, if_pos hc]
    exact (expression?_eq_some_iff hrest).2 ⟨b, x, rfl, rfl⟩

/-- A name, a given word and an expression, each behind a gap, are read as they are put together. -/
theorem read_given_iff {given name e : Text} (hgiven : ∀ v, Stops isBlank (given ++ v))
    (ht : Text.Tail t) :
    (∃ v, gapWord? t = some (name, v) ∧ ∃ w, afterGap? v = some w ∧
        ∃ z, after? given w = some z ∧ gapExpression? z = some e) ↔
      ∃ (gap middle last : Gap) (n : Name) (x : Trimmed), name = n.text ∧ e = x.text ∧
        t = gap.text ++ (n.text ++ (middle.text ++ (given ++ (last.text ++ x.text)))) := by
  constructor
  · rintro ⟨v, hname, w, hmiddle, z, hgiven, he⟩
    obtain ⟨_, gap, n, rfl, rfl⟩ := gapWord?_eq_some_iff.1 hname
    obtain ⟨_, middle, rfl⟩ := afterGap?_eq_some_iff.1 hmiddle
    obtain rfl := after?_eq_some_iff.1 hgiven
    obtain ⟨last, x, rfl, rfl⟩ :=
      (gapExpression?_eq_some_iff ht.of_append.of_append.of_append.of_append).1 he
    exact ⟨gap, middle, last, n, x, rfl, rfl, rfl⟩
  · rintro ⟨gap, middle, last, n, x, rfl, rfl, rfl⟩
    exact ⟨_, gapWord?_eq_some_iff.2 ⟨middle.stops_append _, gap, n, rfl, rfl⟩,
      _, afterGap?_eq_some_iff.2 ⟨hgiven _, middle, rfl⟩, _, after?_eq_some_iff.2 rfl,
      (gapExpression?_eq_some_iff ht.of_append.of_append.of_append.of_append).2
        ⟨last, x, rfl, rfl⟩⟩

/-- A name, an equals sign and an expression are read as they are put together. -/
theorem read_equals_iff {name e : Text} (ht : Text.Tail t) :
    (∃ v, gapWord? t = some (name, v) ∧ ∃ z, after? "=" (v.dropWhile isBlank) = some z ∧
        expression? z = some e) ↔
      ∃ (gap : Gap) (n : Name) (before after : Blanks) (x : Trimmed), name = n.text ∧ e = x.text ∧
        t = gap.text ++ (n.text ++ (before.text ++ ("=" ++ (after.text ++ x.text)))) := by
  constructor
  · rintro ⟨v, hname, z, hequals, he⟩
    obtain ⟨_, gap, n, rfl, rfl⟩ := gapWord?_eq_some_iff.1 hname
    obtain ⟨before, w, rfl, hw⟩ : ∃ (before : Blanks) (w : Text), v = before.text ++ w ∧
        v.dropWhile isBlank = w := ⟨.first v, _, (Blanks.first_append v).symm, rfl⟩
    rw [hw] at hequals
    obtain rfl := after?_eq_some_iff.1 hequals
    obtain ⟨after, x, rfl, rfl⟩ :=
      (expression?_eq_some_iff ht.of_append.of_append.of_append.of_append).1 he
    exact ⟨gap, n, before, after, x, rfl, rfl, rfl⟩
  · rintro ⟨gap, n, before, after, x, rfl, rfl, rfl⟩
    have hblank : Stops isBlank ("=" ++ (after.text ++ x.text)) := Text.stops_cons.2 rfl
    have hword : Stops isWordChar ("=" ++ (after.text ++ x.text)) := Text.stops_cons.2 rfl
    refine ⟨_, gapWord?_eq_some_iff.2 ⟨before.stops_append fun _ => hword, gap, n, rfl, rfl⟩,
      after.text ++ x.text, ?_, ?_⟩
    · rw [Text.dropWhile_run before.blank hblank]
      exact after?_eq_some_iff.2 rfl
    · exact (expression?_eq_some_iff ht.of_append.of_append.of_append.of_append).2
        ⟨after, x, rfl, rfl⟩

/-- Two names and an expression, each behind a gap, are read as they are put together. -/
theorem read_names_iff {target source e : Text} (ht : Text.Tail t) :
    (∃ v, gapWord? t = some (target, v) ∧ ∃ w, gapWord? v = some (source, w) ∧
        gapExpression? w = some e) ↔
      ∃ (gap middle last : Gap) (n m : Name) (x : Trimmed), target = n.text ∧ source = m.text ∧
        e = x.text ∧
        t = gap.text ++ (n.text ++ (middle.text ++ (m.text ++ (last.text ++ x.text)))) := by
  constructor
  · rintro ⟨v, htarget, w, hsource, he⟩
    obtain ⟨_, gap, n, rfl, rfl⟩ := gapWord?_eq_some_iff.1 htarget
    obtain ⟨_, middle, m, rfl, rfl⟩ := gapWord?_eq_some_iff.1 hsource
    obtain ⟨last, x, rfl, rfl⟩ :=
      (gapExpression?_eq_some_iff ht.of_append.of_append.of_append.of_append).1 he
    exact ⟨gap, middle, last, n, m, x, rfl, rfl, rfl, rfl⟩
  · rintro ⟨gap, middle, last, n, m, x, rfl, rfl, rfl, rfl⟩
    exact ⟨_, gapWord?_eq_some_iff.2 ⟨middle.stops_append _, gap, n, rfl, rfl⟩,
      _, gapWord?_eq_some_iff.2 ⟨last.stops_append _, middle, m, rfl, rfl⟩,
      (gapExpression?_eq_some_iff ht.of_append.of_append.of_append.of_append).2
        ⟨last, x, rfl, rfl⟩⟩

/-! ### Shapes -/

theorem stops_same (v : Text) : Stops isBlank ("same" ++ v) := Text.stops_cons.2 rfl

theorem stops_high (v : Text) : Stops isBlank ("high" ++ v) := Text.stops_cons.2 rfl

/-- What is read behind the words of a kind is spelled there. -/
theorem exists_spelling_of_shape? {k : StatementKind} {st : Statement} (ht : Text.Tail t)
    (hspace : t.head? = some ' ') (h : shape? k t = some st) :
    ∃ s : Spelling, s.kind = k ∧ s.body = t ∧ s.statement = st := by
  cases k <;>
    simp only [shape?, Option.map_eq_map, Option.map_eq_some_iff, Option.bind_eq_bind,
      Option.bind_eq_some_iff, Option.pure_def, Option.some.injEq, Prod.exists] at h
  case declare =>
    obtain ⟨_, v, hname, z, hequals, _, he, rfl⟩ := h
    obtain ⟨g, n, before, after, x, rfl, rfl, rfl⟩ :=
      (read_equals_iff ht).1 ⟨v, hname, z, hequals, he⟩
    obtain ⟨gap, rfl⟩ := Gap.exists_keywordGap hspace
    exact ⟨.declare gap n before after x, rfl, rfl, rfl⟩
  case shout =>
    obtain ⟨_, he, rfl⟩ := h
    obtain ⟨g, x, rfl, rfl⟩ := (gapExpression?_eq_some_iff ht).1 he
    obtain ⟨gap, rfl⟩ := Gap.exists_keywordGap hspace
    exact ⟨.shout gap x, rfl, rfl, rfl⟩
  case arithmetic op =>
    obtain ⟨_, v, htarget, _, w, hsource, _, he, rfl⟩ := h
    obtain ⟨g, middle, last, n, m, x, rfl, rfl, rfl, rfl⟩ :=
      (read_names_iff ht).1 ⟨v, htarget, w, hsource, he⟩
    obtain ⟨gap, rfl⟩ := Gap.exists_keywordGap hspace
    exact ⟨.arithmetic op gap n middle m last x, rfl, rfl, rfl⟩
  case grind =>
    obtain ⟨_, he, rfl⟩ := h
    obtain ⟨g, x, rfl, rfl⟩ := (gapExpression?_eq_some_iff ht).1 he
    obtain ⟨gap, rfl⟩ := Gap.exists_keywordGap hspace
    exact ⟨.grind gap x, rfl, rfl, rfl⟩
  case compare =>
    obtain ⟨_, v, hname, w, hmiddle, z, hword, _, he, rfl⟩ := h
    obtain ⟨g, middle, last, n, x, rfl, rfl, rfl⟩ :=
      (read_given_iff stops_same ht).1 ⟨v, hname, w, hmiddle, z, hword, he⟩
    obtain ⟨gap, rfl⟩ := Gap.exists_keywordGap hspace
    exact ⟨.compare gap n middle last x, rfl, rfl, rfl⟩
  case keep =>
    obtain ⟨_, v, hname, w, hmiddle, z, hword, _, he, rfl⟩ := h
    obtain ⟨g, middle, last, n, x, rfl, rfl, rfl⟩ :=
      (read_given_iff stops_high ht).1 ⟨v, hname, w, hmiddle, z, hword, he⟩
    obtain ⟨gap, rfl⟩ := Gap.exists_keywordGap hspace
    exact ⟨.keep gap n middle last x, rfl, rfl, rfl⟩

/-- What is spelled behind the words of its kind is read. -/
theorem shape?_body (s : Spelling) (ht : Text.Tail s.body) :
    shape? s.kind s.body = some s.statement := by
  cases s <;>
    simp only [Spelling.kind, Spelling.statement, shape?, Option.map_eq_map,
      Option.map_eq_some_iff, Option.bind_eq_bind, Option.bind_eq_some_iff, Option.pure_def,
      Option.some.injEq, Prod.exists]
  case declare gap n before after x =>
    obtain ⟨v, hname, z, hequals, he⟩ :=
      (read_equals_iff ht).2 ⟨gap.toGap, n, before, after, x, rfl, rfl, rfl⟩
    exact ⟨_, v, hname, z, hequals, _, he, rfl⟩
  case shout gap x =>
    exact ⟨_, (gapExpression?_eq_some_iff ht).2 ⟨gap.toGap, x, rfl, rfl⟩, rfl⟩
  case arithmetic op gap n middle m last x =>
    obtain ⟨v, htarget, w, hsource, he⟩ :=
      (read_names_iff ht).2 ⟨gap.toGap, middle, last, n, m, x, rfl, rfl, rfl, rfl⟩
    exact ⟨_, v, htarget, _, w, hsource, _, he, rfl⟩
  case grind gap x =>
    exact ⟨_, (gapExpression?_eq_some_iff ht).2 ⟨gap.toGap, x, rfl, rfl⟩, rfl⟩
  case compare gap n middle last x =>
    obtain ⟨v, hname, w, hmiddle, z, hword, he⟩ :=
      (read_given_iff stops_same ht).2 ⟨gap.toGap, middle, last, n, x, rfl, rfl, rfl⟩
    exact ⟨_, v, hname, w, hmiddle, z, hword, _, he, rfl⟩
  case keep gap n middle last x =>
    obtain ⟨v, hname, w, hmiddle, z, hword, he⟩ :=
      (read_given_iff stops_high ht).2 ⟨gap.toGap, middle, last, n, x, rfl, rfl, rfl⟩
    exact ⟨_, v, hname, w, hmiddle, z, hword, _, he, rfl⟩

end Statement

/-! ### Lines -/

/-- A line is classified by the kind whose opening it has. -/
theorem StatementKind.classify_eq_some_iff {line : Text} {k : StatementKind} :
    classify line = some k ↔ opens k line = true := by
  constructor
  · exact List.find?_some
  · intro hk
    cases hfind : classify line with
    | none => exact absurd hk (List.find?_eq_none.1 hfind k (mem_all k))
    | some l => rw [opens_unique hk (List.find?_some (p := (opens · line)) hfind)]

/-- A line is read as a statement if it has the opening of a kind and what stands behind the words
of the kind has its shape. -/
theorem Statement.parse_eq_ok_iff {line : Text} {st : Statement} :
    parse line = .ok st ↔ ∃ k, StatementKind.opens k line = true ∧
      shape? k (line.drop k.keyword.length) = some st := by
  simp only [← StatementKind.classify_eq_some_iff]
  constructor
  · intro h
    unfold parse at h
    split at h
    · cases h
    · rename_i k hk
      split at h
      · cases h
      · rename_i found hfound
        cases h
        exact ⟨k, hk, hfound⟩
  · rintro ⟨k, hk, hshape⟩
    simp only [parse, hk, hshape]

/-- A line that no blank ends spells the statement that is read from it. -/
theorem Statement.exists_spelling_of_parse {line : Text} (ht : Text.Tail line) {st : Statement}
    (h : parse line = .ok st) : ∃ s : Spelling, s.line = line ∧ s.statement = st := by
  obtain ⟨k, hopens, hshape⟩ := parse_eq_ok_iff.1 h
  obtain ⟨v, rfl⟩ := StatementKind.opens_iff.1 hopens
  rw [List.drop_left] at hshape
  obtain ⟨s, rfl, hbody, hst⟩ := exists_spelling_of_shape? ht.of_append rfl hshape
  exact ⟨s, by rw [Spelling.line, hbody], hst⟩

/-- A line that no blank ends, and that holds no line break, is read as a statement if and only if
it spells this statement, and it has one spelling at most. -/
theorem parse_eq_ok_iff_spelling (line : Text) (hline : Text.OneLine line)
    (hlast : ∀ c ∈ line.getLast?, isBlank c = false) :
    (∀ st, Statement.parse line = .ok st ↔ ∃ s : Spelling, s.line = line ∧ s.statement = st) ∧
      ∀ s s' : Spelling, s.line = line → s'.line = line → s = s' := by
  have htail (k : StatementKind) {t : Text} (h : line = k.keyword ++ t) : Text.Tail t := by
    have : Text.Tail line := ⟨hline, hlast⟩
    rw [h] at this
    exact this.of_append
  refine ⟨fun st => ?_, fun s s' hs hs' => Spelling.line_inj (hs.trans hs'.symm)⟩
  rw [Statement.parse_eq_ok_iff]
  constructor
  · rintro ⟨k, hopens, hshape⟩
    obtain ⟨v, rfl⟩ := StatementKind.opens_iff.1 hopens
    rw [List.drop_left] at hshape
    obtain ⟨s, rfl, hbody, hst⟩ := Statement.exists_spelling_of_shape? (htail k rfl) rfl hshape
    exact ⟨s, by rw [Spelling.line, hbody], hst⟩
  · rintro ⟨s, rfl, rfl⟩
    refine ⟨s.kind, s.opens_line, ?_⟩
    rw [Spelling.line, List.drop_left]
    exact Statement.shape?_body s (htail s.kind rfl)

/-- An equals sign may stand behind the equals sign: it belongs to the expression. -/
theorem spelling_of_two_equals_signs :
    (Text.OneLine "vibe x == 5" ∧ ∀ c ∈ ("vibe x == 5" : Text).getLast?, isBlank c = false) ∧
      ∃ s : Spelling, s.line = "vibe x == 5" ∧ s.statement = .declare "x" "= 5" ∧
        ∀ s' : Spelling, s'.line = "vibe x == 5" → s' = s := by
  have hline : Text.OneLine "vibe x == 5" := by decide
  have hlast : ∀ c ∈ ("vibe x == 5" : Text).getLast?, isBlank c = false := by
    have hfive : ("vibe x == 5" : Text).getLast? = some '5' := rfl
    rw [hfive]
    rintro c ⟨⟩
    rfl
  have h := parse_eq_ok_iff_spelling "vibe x == 5" hline hlast
  obtain ⟨s, hs, hst⟩ := (h.1 (.declare "x" "= 5")).1 rfl
  exact ⟨⟨hline, hlast⟩, s, hs, hst, fun s' hs' => h.2 s' s hs' hs⟩

end VibeScript
