import VibeScript.Proofs.Grammar
import VibeScript.Proofs.LongestMatch
import VibeScript.Proofs.Seams

/-!
Tokens and statements agree on what a line is, although neither is made from the other. Behind the
tokens that hold nothing but blanks, a line without text has no tokens, a comment is a comment, a
statement begins with the reserved word of its kind, and the connective between a name and what it
is compared with is a token of its own (`tokens_of_line`).

Blanks are more characters than the whitespace of tokens, and a name may be several tokens. But
blanks, names and reserved words follow each other in a line so that no rule looks from one into the
next: blanks are cut apart from what is not blank (`pieces_blanks`), and names and words from the
blanks behind them (`pieces_name`, `pieces_word`).
-/

namespace VibeScript

open Text (Stops isBlank isWordChar)

/-- Whether a piece holds nothing but blanks. -/
def Piece.allBlank (p : Piece) : Bool := p.text.all Text.isBlank

/-- Whether a token holds nothing but blanks. -/
def Token.allBlank (t : Token) : Bool := t.piece.allBlank

/-- The tokens of a line behind those at its start that hold nothing but blanks. -/
def SourceLine.tokens (l : SourceLine) : List Token := (tokenize l.raw).dropWhile Token.allBlank

/-- The pieces that the words of a kind make at the start of a line. -/
def StatementKind.heading : StatementKind → List Piece
  | keep => [⟨.keyword, "keep"⟩, ⟨.whitespace, [' ']⟩, ⟨.keyword, "vibing"⟩]
  | kind => [⟨.keyword, kind.keyword⟩]

theorem StatementKind.flatMap_text_heading (k : StatementKind) :
    k.heading.flatMap Piece.text = k.keyword := by
  cases k with
  | keep => rfl
  | _ => simp [heading]

/-- Whether the text of a line is a beginning, a name, a connective and an expression with gaps
between them, and the connective is a token of its own there, a reserved word. -/
def SourceLine.HasConnective (l : SourceLine) (beginning name connective expression : Text) :
    Prop :=
  ∃ gap middle last : Gap,
    l.text = beginning ++ gap.text ++ name ++ middle.text ++ connective ++ last.text ++ expression ∧
    ∃ before token after, l.tokens = before ++ token :: after ∧
      before.flatMap Token.text = beginning ++ gap.text ++ name ++ middle.text ∧
      token.kind = .keyword ∧ token.text = connective

namespace Token

variable {c : Char} {rest t w : Text}

/-! ### Classes of characters -/

theorem isBlank_of_isSpace (h : isSpace c = true) : isBlank c = true := by
  simp only [isSpace, Bool.or_eq_true, beq_iff_eq] at h
  rcases h with (rfl | rfl) | rfl <;> decide

/-- A character of a word begins a word or a number. -/
theorem isWordChar_cases (h : isWordChar c = true) : c.isDigit = true ∨ isWordStart c = true := by
  simp only [isWordStart, isWordChar, Char.isAlphanum, Bool.or_eq_true] at h ⊢
  tauto

/-- No blank is in the class of any character of a word. -/
theorem classes_of_isBlank (h : isBlank c = true) :
    c.isAlpha = false ∧ c.isDigit = false ∧ c ≠ '_' := by
  have hword : isWordChar c ≠ true := by
    intro hword
    rw [Text.isBlank_eq_false_of_isWordChar hword] at h
    cases h
  simpa [isWordChar, Char.isAlphanum, and_assoc] using hword

/-- No number goes on with a blank. -/
theorem not_isNumeric_of_isBlank (h : isBlank c = true) : isNumeric c = false := by
  obtain ⟨_, hdigit, _⟩ := classes_of_isBlank h
  have hdot : c ≠ '.' := by
    rintro rfl
    cases h
  simp [isNumeric, hdigit, hdot]

/-- A blank that is no whitespace and no line break is a piece of its own. -/
theorem rule_blank (h : isBlank c = true) (hs : isSpace c = false) (hn : c ≠ '\n') :
    rule c rest = (.unknown, 0) := by
  have hc : c ∉ ['/', '"', '=', '+', '-', '*', '<', '>', '!'] := not_mem_of_class h (by decide)
  simp only [List.mem_cons, List.not_mem_nil, or_false, not_or] at hc
  have hlong : isLongOperator c = fun _ => false := by funext d; simp [isLongOperator, hc]
  obtain ⟨halpha, hdigit, hunderscore⟩ := classes_of_isBlank h
  simp [rule, hs, isOperator, isWordStart, hlong, hc, halpha, hdigit, hunderscore, hn]

/-! ### Blanks, names and words -/

/-- Blanks are cut apart from what is not blank. -/
theorem pieces_blanks (b : Blanks) (hb : Text.OneLine b.text) (ht : Stops isBlank t) :
    pieces (b.text ++ t) = pieces b.text ++ pieces t := by
  refine pieces_append fun c rest hsuffix => ?_
  have hc : c ∈ b.text := hsuffix.subset List.mem_cons_self
  have hstops : Stops isSpace t := by
    intro d hd
    rw [Bool.eq_false_iff]
    intro hs
    have hblank := ht d hd
    rw [isBlank_of_isSpace hs] at hblank
    cases hblank
  cases hs : isSpace c with
  | true => rw [rule_space hs, rule_space hs, runLength_append hstops]
  | false =>
    have hn : c ≠ '\n' := fun e => hb (e ▸ hc)
    rw [rule_blank (b.blank c hc) hs hn, rule_blank (b.blank c hc) hs hn]

/-- A name is cut apart from a gap. -/
theorem pieces_name (n : Name) (g : Gap) (t : Text) :
    pieces (n.text ++ (g.text ++ t)) = pieces n.text ++ pieces (g.text ++ t) := by
  refine pieces_append fun c rest hsuffix => ?_
  have hword : Stops isWordChar (g.text ++ t) := g.stops_append t
  have hnumeric : Stops isNumeric (g.text ++ t) := by
    obtain ⟨d, hd, b, rfl⟩ := g.exists_cons
    exact Text.stops_cons.2 (not_isNumeric_of_isBlank hd)
  rcases isWordChar_cases (n.wordChars c (hsuffix.subset List.mem_cons_self)) with hc | hc
  · rw [rule_digit hc, rule_digit hc, runLength_append hnumeric]
  · rw [rule_word hc, rule_word hc, runLength_append hword, hword.takeWhile_append]

/-- A reserved word is one piece, if no word goes on behind it. -/
theorem pieces_word (hw : w ∈ keywords) (ht : Stops isWordChar t) :
    pieces (w ++ t) = ⟨.keyword, w⟩ :: pieces t := by
  have hidentifier := mem_identifier_of_mem_keyword (mem_keywords_iff.1 hw)
  cases w with
  | nil => simp [keywords] at hw
  | cons c u =>
    obtain ⟨hc, hu⟩ := Pattern.cons_mem_one_mul_many.1 hidentifier
    have htake := Text.takeWhile_run hu ht
    have hdrop := Text.dropWhile_run hu ht
    have hkind : wordKind (c :: u) = .keyword := if_pos (List.contains_iff_mem.2 hw)
    rw [List.cons_append, pieces, rule_word hc]
    simp only [take_runLength, drop_runLength, htake, hdrop, hkind]

/-- The words of a kind are the pieces that they should be, if a gap is behind them. -/
theorem pieces_heading (k : StatementKind) (g : Gap) (t : Text) :
    pieces (k.keyword ++ (g.text ++ t)) = k.heading ++ pieces (g.text ++ t) := by
  have hgap : Stops isWordChar (g.text ++ t) := g.stops_append t
  have hone (k : StatementKind) (hk : k.keyword ∈ keywords) :
      pieces (k.keyword ++ (g.text ++ t)) = [⟨.keyword, k.keyword⟩] ++ pieces (g.text ++ t) :=
    pieces_word hk hgap
  cases k with
  | arithmetic op => cases op <;> exact hone _ (by decide)
  | declare | shout | grind | compare => exact hone _ (by decide)
  | keep =>
    let space : Gap := .cons ' ' rfl ⟨[], by simp⟩
    have hspace : pieces space.text = [⟨.whitespace, [' ']⟩] := by
      change pieces [' '] = _
      simp [pieces, rule_space, isSpace, runLength]
    have hkeep := pieces_word (w := "keep") (by decide)
      (space.stops_append ("vibing" ++ (g.text ++ t)))
    have hbetween := pieces_blanks space.toBlanks (t := "vibing" ++ (g.text ++ t)) (by decide)
      (Text.stops_cons.2 rfl)
    have hvibing := pieces_word (w := "vibing") (by decide) hgap
    rw [hvibing, hspace] at hbetween
    rw [hbetween] at hkeep
    exact hkeep

/-- A given word behind a name is one piece, whatever the pieces before it are. -/
theorem pieces_given (k : StatementKind) (gap : Gap) (n : Name) (middle : Gap) (hw : w ∈ keywords)
    (last : Gap) (t : Text) (hgap : Text.OneLine gap.text) (hmiddle : Text.OneLine middle.text) :
    ∃ before, pieces (k.keyword ++ (gap.text ++ (n.text ++ (middle.text ++
        (w ++ (last.text ++ t)))))) = before ++ ⟨.keyword, w⟩ :: pieces (last.text ++ t) ∧
      before.flatMap Piece.text = k.keyword ++ gap.text ++ n.text ++ middle.text := by
  have hstops (u : Text) : Stops isBlank (w ++ u) := by
    have hwords : ∀ w ∈ keywords, Text.isWord w = true := by decide
    exact Name.stops_append ⟨w, hwords w hw⟩ u
  refine ⟨k.heading ++ (pieces gap.text ++ (pieces n.text ++ pieces middle.text)), ?_, ?_⟩
  · rw [pieces_heading, pieces_blanks gap.toBlanks hgap (n.stops_append _), pieces_name,
      pieces_blanks middle.toBlanks hmiddle (hstops _), pieces_word hw (last.stops_append t)]
    simp only [List.append_assoc]
  · simp only [List.flatMap_append, k.flatMap_text_heading, flatMap_text_pieces,
      List.append_assoc]

/-! ### Pieces of blanks -/

/-- On one line, a piece of blanks is whitespace or one blank of another sort. -/
theorem allBlank_iff {line : Text} (hline : Text.OneLine line) {p : Piece} (hp : p ∈ pieces line) :
    p.allBlank = true ↔
      p.kind = .whitespace ∨ p.kind = .unknown ∧ ∃ c, isBlank c = true ∧ p.text = [c] := by
  have hsub : p.text ⊆ line := by
    intro c hc
    rw [← flatMap_text_pieces line]
    exact List.mem_flatMap.2 ⟨p, hp, hc⟩
  have hmem := (mem_ofKind_of_mem_pieces hp).2
  obtain ⟨c, rest, rfl⟩ := exists_rule_of_mem_pieces hp
  constructor
  · intro hblank
    have hc : isBlank c = true := List.all_eq_true.1 hblank c List.mem_cons_self
    cases hs : isSpace c with
    | true => rw [rule_space hs]; exact .inl rfl
    | false =>
      rw [rule_blank hc hs fun e => hline (e ▸ hsub List.mem_cons_self)]
      exact .inr ⟨rfl, c, hc, rfl⟩
  · rintro (hkind | ⟨_, d, hd, htext⟩)
    · rw [hkind] at hmem
      obtain ⟨hc, hrest⟩ := Pattern.cons_mem_one_mul_many.1 hmem
      refine List.all_eq_true.2 (List.forall_mem_cons.2 ⟨isBlank_of_isSpace hc, ?_⟩)
      exact fun d hd => isBlank_of_isSpace (hrest d hd)
    · rw [Piece.allBlank, htext]
      simp [hd]

/-- The pieces of a line behind those of blanks are the pieces of what is behind the blanks. -/
theorem dropWhile_allBlank_pieces {line : Text} (hline : Text.OneLine line) :
    (pieces line).dropWhile Piece.allBlank = pieces (Text.trimStart line) := by
  have hsplit := Blanks.first_append line
  have hfirst : Text.OneLine (Blanks.first line).text := by
    rw [← hsplit] at hline
    exact hline.of_subset (List.subset_append_left ..)
  have hblank : ∀ p ∈ pieces (Blanks.first line).text, p.allBlank = true := by
    intro p hp
    refine List.all_eq_true.2 fun c hc => (Blanks.first line).blank c ?_
    rw [← flatMap_text_pieces (Blanks.first line).text]
    exact List.mem_flatMap.2 ⟨p, hp, hc⟩
  have hrest : (pieces (Text.trimStart line)).dropWhile Piece.allBlank =
      pieces (Text.trimStart line) := by
    have hstops : Stops isBlank (Text.trimStart line) := Text.stops_dropWhile _ _
    cases htrim : Text.trimStart line with
    | nil => simp [pieces]
    | cons c rest =>
      rw [htrim, Text.stops_cons] at hstops
      rw [pieces, List.dropWhile_cons_of_neg (by simp [Piece.allBlank, hstops])]
  conv_lhs => rw [← hsplit]
  rw [pieces_blanks _ hfirst (Text.stops_dropWhile _ _), List.dropWhile_append_of_pos hblank]
  exact hrest

theorem pieces_eq_nil_iff : pieces t = [] ↔ t = [] := by
  constructor
  · intro h
    rw [← flatMap_text_pieces t, h]
    rfl
  · rintro rfl
    rw [pieces]

/-- A text begins with a comment if its first piece is one. -/
theorem head?_pieces_eq_comment :
    (pieces t).head?.map Piece.kind = some .comment ↔ ['/', '/'] <+: t := by
  cases t with
  | nil => simp [pieces]
  | cons c rest =>
    rw [pieces, List.head?_cons, Option.map_some, Option.some.injEq]
    constructor
    · intro hkind
      change (rule c rest).1 = .comment at hkind
      have hmem := text_mem_ofKind c rest
      rw [hkind] at hmem
      obtain ⟨rfl, v, hv, _⟩ := Pattern.cons_mem_comment.1 hmem
      have htake : rest.take (rule '/' rest).2 <+: rest := List.take_prefix ..
      rw [hv] at htake
      exact List.cons_prefix_cons.2 ⟨rfl, (List.prefix_append ['/'] v).trans htake⟩
    · rintro ⟨u, hu⟩
      obtain ⟨rfl, rfl⟩ := List.cons.inj hu
      exact congrArg Prod.fst (rule_comment u)

end Token

/-! ### Lines -/

/-- Blanks at the end of a text are no part of a beginning without blanks. -/
theorem Blanks.prefix_append_iff {p : Text} (hp : ∀ c ∈ p, isBlank c = false) (t : Text)
    (b : Blanks) : p <+: t ++ b.text ↔ p <+: t := by
  constructor
  · intro h
    rcases List.prefix_or_prefix_of_prefix h (List.prefix_append t b.text) with hpt | ⟨q, rfl⟩
    · exact hpt
    · rw [List.prefix_append_right_inj] at h
      cases q with
      | nil => simp
      | cons c q =>
        have hc := b.blank c (h.subset List.mem_cons_self)
        rw [hp c (by simp)] at hc
        cases hc
  · intro h
    exact h.trans (List.prefix_append ..)

namespace SourceLine

variable {l : SourceLine}

/-- Behind the blanks at its start, a line is its text and the blanks at its end. -/
theorem trimStart_raw (l : SourceLine) :
    ∃ b : Blanks, Text.trimStart l.raw = l.text ++ b.text := by
  refine ⟨⟨((Text.trimStart l.raw).reverse.takeWhile isBlank).reverse, fun c hc => ?_⟩, ?_⟩
  · exact List.all_eq_true.1 List.all_takeWhile c (List.mem_reverse.1 hc)
  · rw [text, Text.trim, Text.trimEnd, Text.dropEndWhile, ← List.reverse_append,
      List.takeWhile_append_dropWhile, List.reverse_reverse]

/-- The tokens of a line are the pieces of what is behind the blanks at its start. -/
theorem map_piece_tokens (h : Text.OneLine l.raw) :
    l.tokens.map Token.piece = Token.pieces (Text.trimStart l.raw) := by
  rw [← Token.dropWhile_allBlank_pieces h, ← Token.map_piece_tokenize, List.dropWhile_map]
  rfl

/-- A line without text has no tokens. -/
theorem tokens_eq_nil_iff (h : Text.OneLine l.raw) : l.tokens = [] ↔ l.text = [] := by
  obtain ⟨b, hb⟩ := l.trimStart_raw
  rw [← List.map_eq_nil_iff, map_piece_tokens h, Token.pieces_eq_nil_iff, hb]
  refine ⟨fun hall => (List.append_eq_nil_iff.1 hall).1, fun hempty => ?_⟩
  -- The blanks at the end are then at the start too, and those are gone.
  have hstops : Stops isBlank (Text.trimStart l.raw) := Text.stops_dropWhile _ _
  rw [hb, hempty, List.nil_append] at hstops
  rw [hempty, List.nil_append, ← hstops.takeWhile_eq_nil]
  exact (List.takeWhile_eq_self_iff.2 b.blank).symm

/-- A line is a comment if its first token is one. -/
theorem head?_tokens_eq_comment (h : Text.OneLine l.raw) :
    l.tokens.head?.map Token.kind = some .comment ↔ isComment l.text = true := by
  have hslashes : ∀ c ∈ ['/', '/'], isBlank c = false := by
    intro c hc
    have hc : c = '/' := by simpa using hc
    rw [hc]
    rfl
  have hkinds : l.tokens.head?.map Token.kind =
      (l.tokens.map Token.piece).head?.map Piece.kind := by
    rw [List.head?_map, Option.map_map]
    rfl
  obtain ⟨b, hb⟩ := l.trimStart_raw
  rw [hkinds, map_piece_tokens h, Token.head?_pieces_eq_comment, hb,
    Blanks.prefix_append_iff hslashes, isComment, List.isPrefixOf_iff_prefix]

/-- A line of a kind begins with the words of the kind. -/
theorem heading_prefix_tokens (h : Text.OneLine l.raw) {k : StatementKind}
    (hk : StatementKind.classify l.text = some k) :
    k.heading <+: l.tokens.map Token.piece := by
  obtain ⟨v, hv⟩ := StatementKind.opens_iff.1 (StatementKind.classify_eq_some_iff.1 hk)
  obtain ⟨b, hb⟩ := l.trimStart_raw
  let space : Gap := .cons ' ' rfl ⟨[], by simp⟩
  have hheading := Token.pieces_heading k space (v ++ b.text)
  rw [map_piece_tokens h, hb, hv, List.append_assoc]
  exact ⟨_, hheading.symm⟩

/-- The text of a line that is read as a statement spells it. -/
theorem exists_spelling (h : Text.OneLine l.raw) {st : Statement}
    (hst : Statement.parse l.text = .ok st) :
    ∃ s : Spelling, s.line = l.text ∧ s.statement = st :=
  Statement.exists_spelling_of_parse (Text.tail_trim h) hst

/-- A reserved word that is spelled behind a name is a token. -/
theorem hasConnective_of_text (h : Text.OneLine l.raw) {w : Text} (hw : w ∈ Token.keywords)
    {k : StatementKind} {gap middle last : Gap} {n : Name} {t : Text}
    (hl : l.text =
      k.keyword ++ (gap.text ++ (n.text ++ (middle.text ++ (w ++ (last.text ++ t)))))) :
    l.HasConnective k.keyword n.text w t := by
  have hline : Text.OneLine l.text := h.of_subset (Text.trim_subset l.raw)
  rw [hl] at hline
  have hgap : Text.OneLine gap.text := hline.of_subset fun c hc => by simp [hc]
  have hmiddle : Text.OneLine middle.text := hline.of_subset fun c hc => by simp [hc]
  obtain ⟨b, hb⟩ := l.trimStart_raw
  obtain ⟨before, hpieces, hbefore⟩ :=
    Token.pieces_given k gap n middle hw last (t ++ b.text) hgap hmiddle
  have htokens := map_piece_tokens h
  simp only [hb, hl, List.append_assoc] at htokens
  rw [hpieces, List.map_eq_append_iff] at htokens
  obtain ⟨front, back, hsplit, rfl, hback⟩ := htokens
  obtain ⟨token, after, rfl, htoken, _⟩ := List.map_eq_cons_iff.1 hback
  rw [List.flatMap_map] at hbefore
  refine ⟨gap, middle, last, ?_, front, token, after, hsplit, hbefore,
    congrArg Piece.kind htoken, congrArg Piece.text htoken⟩
  simp only [hl, List.append_assoc]

end SourceLine

/-- Tokens and statements agree on what a line is. The tokens that hold nothing but blanks are
whitespace and single blanks of other sorts. Behind those at its start, a line without text has no
tokens and a comment has a comment as its first; a line of a kind begins with the words of the kind;
and the connective between a name and what is compared with it or kept in it is a token of its
own. -/
theorem tokens_of_line (l : SourceLine) (h : Text.OneLine l.raw) :
    (∀ t ∈ tokenize l.raw, t.allBlank = true ↔
      t.kind = .whitespace ∨ t.kind = .unknown ∧ ∃ c, isBlank c = true ∧ t.text = [c]) ∧
    (l.tokens = [] ↔ l.text = []) ∧
    (l.tokens.head?.map Token.kind = some .comment ↔ SourceLine.isComment l.text = true) ∧
    (∀ k, StatementKind.classify l.text = some k → k.heading <+: l.tokens.map Token.piece) ∧
    (∀ name e, Statement.parse l.text = .ok (.compare name e) →
      l.HasConnective "fr" name "same" e) ∧
    (∀ name e, Statement.parse l.text = .ok (.keep name e) →
      l.HasConnective "keep vibing" name "high" e) := by
  refine ⟨fun t ht => ?blanks, SourceLine.tokens_eq_nil_iff h, SourceLine.head?_tokens_eq_comment h,
    fun k hk => SourceLine.heading_prefix_tokens h hk, fun name e hst => ?compare,
    fun name e hst => ?keep⟩
  case blanks =>
    have hpiece : t.piece ∈ Token.pieces l.raw := by
      rw [← Token.map_piece_tokenize]
      exact List.mem_map_of_mem ht
    exact Token.allBlank_iff h hpiece
  case compare =>
    obtain ⟨s, hs, hstatement⟩ := SourceLine.exists_spelling h hst
    cases s with
    | compare gap n middle last x =>
      cases hstatement
      have hsame : ("same" : Text) ∈ Token.keywords := by decide
      exact SourceLine.hasConnective_of_text h hsame (k := .compare) hs.symm
    | _ => cases hstatement
  case keep =>
    obtain ⟨s, hs, hstatement⟩ := SourceLine.exists_spelling h hst
    cases s with
    | keep gap n middle last x =>
      cases hstatement
      have hhigh : ("high" : Text) ∈ Token.keywords := by decide
      exact SourceLine.hasConnective_of_text h hhigh (k := .keep) hs.symm
    | _ => cases hstatement

/-- A wide blank in front, a name that begins with a digit and a string that stays open: the
connective between them is a token all the same. -/
theorem tokens_of_comparison_behind_wide_blank :
    ∃ l : SourceLine, l.raw = "\u3000fr 2x same \"same\t" ∧ Text.OneLine l.raw ∧
      StatementKind.classify l.text = some .compare ∧
      StatementKind.compare.heading <+: l.tokens.map Token.piece ∧
      Statement.parse l.text = .ok (.compare "2x" "\"same") ∧
      l.HasConnective "fr" "2x" "same" "\"same" := by
  let raw : Text := "\u3000fr 2x same \"same\t"
  let l : SourceLine := ⟨1, raw, .ofLine 1 0 raw⟩
  have hraw : Text.OneLine l.raw := by decide
  have hkind : StatementKind.classify l.text = some .compare := by decide
  have hparse : Statement.parse l.text = .ok (.compare "2x" "\"same") := by decide +kernel
  obtain ⟨_, _, _, hheading, hcompare, _⟩ := tokens_of_line l hraw
  exact ⟨l, rfl, hraw, hkind, hheading _ hkind, hparse, hcompare _ _ hparse⟩

end VibeScript
