import VibeScript.Proofs.LongestMatch

/-!
Tokens that stand alone, and tokens that stand side by side. Each token of a source is the longest
match at its place. It stays the longest match if the source is cut off behind it
(`Longest.of_isPrefix`), so a token that is cut again is one token, the same as before
(`tokenize_text`). And no pattern takes in a token together with what is behind it
(`Longest.append_not_mem`), so each kind says with which characters the next token cannot begin, and
by that of which kinds it cannot be (`neighbours_apart`).
-/

namespace VibeScript

open Pattern

/-! ### The longest match, cut off or drawn out -/

section

variable {source : Text} {piece : Piece}

/-- What is the longest match in a source is so in all that begins the source and holds it. -/
theorem Longest.of_isPrefix (h : Longest source piece) {t : Text} (ht : t <+: source)
    (hpiece : piece.text <+: t) : Longest t piece where
  candidate := ⟨h.candidate.ne_nil, hpiece, h.candidate.mem⟩
  length_le k u hu := h.length_le k u ⟨hu.ne_nil, hu.isPrefix.trans ht, hu.mem⟩
  givesWay k hk := h.givesWay k ⟨hk.ne_nil, h.candidate.isPrefix, hk.mem⟩

/-- No pattern takes in the longest match together with some of what is behind it. -/
theorem Longest.append_not_mem {rest : Text} (h : Longest (piece.text ++ rest) piece) {v : Text}
    (hne : v ≠ []) (hv : v <+: rest) (k : TokenKind) : piece.text ++ v ∉ ofKind k := by
  intro hmem
  have hcandidate : Candidate (piece.text ++ rest) k (piece.text ++ v) :=
    ⟨by simp [hne], (List.prefix_append_right_inj _).2 hv, hmem⟩
  have hle := h.length_le _ _ hcandidate
  have hpos := List.length_pos_of_ne_nil hne
  rw [List.length_append] at hle
  omega

end

namespace Token

/-! ### One token again -/

theorem exists_longest_of_mem_pieces {source : Text} {piece : Piece} (h : piece ∈ pieces source) :
    ∃ t, Longest t piece := by
  obtain ⟨c, rest, rfl⟩ := exists_rule_of_mem_pieces h
  exact ⟨_, longest_rule c rest⟩

/-- A piece of a source is the only piece of its text. -/
theorem pieces_text {source : Text} {piece : Piece} (h : piece ∈ pieces source) :
    pieces piece.text = [piece] := by
  obtain ⟨t, hlongest⟩ := exists_longest_of_mem_pieces h
  have halone := hlongest.of_isPrefix hlongest.candidate.isPrefix List.prefix_rfl
  obtain ⟨first, rest, htext, hfirst, hpieces⟩ := exists_pieces hlongest.candidate.ne_nil
  obtain rfl := halone.unique hfirst
  have hrest : rest = [] := List.append_cancel_left (htext.symm.trans (List.append_nil _).symm)
  rw [hpieces, hrest, pieces]

/-- A token of a source is the only token of its text, where it stands at the start. -/
theorem tokenize_text {source : Text} {t : Token} (h : t ∈ tokenize source) :
    tokenize t.text = [⟨t.kind, t.text, .ofText .start t.text⟩] := by
  have hpiece : t.piece ∈ pieces source := by
    rw [← map_piece_tokenize]
    exact List.mem_map_of_mem h
  have hpieces : pieces t.text = [t.piece] := pieces_text hpiece
  rw [tokenize, hpieces]
  rfl

end Token

/-! ### What goes on -/

namespace Pattern

variable {p q : Char → Bool} {c d : Char} {u : Text}

/-- A run of a class goes on with every character of the class. -/
theorem concat_mem_one_mul_many (h : c :: u ∈ one p * many q) (hd : q d = true) :
    c :: u ++ [d] ∈ one p * many q := by
  obtain ⟨hc, hu⟩ := cons_mem_one_mul_many.1 h
  refine cons_mem_one_mul_many.2 ⟨hc, fun e he => ?_⟩
  rcases List.mem_append.1 he with he | he
  · exact hu e he
  · rwa [List.mem_singleton.1 he]

/-- A comment goes on to the end of its line. -/
theorem concat_mem_comment (h : c :: u ∈ ofKind .comment) (hd : d ≠ '\n') :
    c :: u ++ [d] ∈ ofKind .comment := by
  obtain ⟨rfl, v, rfl, hv⟩ := cons_mem_comment.1 h
  refine cons_mem_comment.2 ⟨rfl, v ++ [d], rfl, fun e he => ?_⟩
  rcases List.mem_append.1 he with he | he
  · exact hv e he
  · rwa [List.mem_singleton.1 he]

/-- Whether a string has no closing quote. -/
def IsOpen (t : Text) : Prop := t = ['"'] ∨ t.getLast? ≠ some '"'

/-- A string without a closing quote goes on to the end of its line, if no quote comes first. -/
theorem concat_mem_string (h : c :: u ∈ ofKind .string) (hopen : IsOpen (c :: u)) (hd : d ≠ '\n') :
    c :: u ++ [d] ∈ ofKind .string := by
  obtain ⟨rfl, v, hv, hu⟩ := cons_mem_string.1 h
  obtain rfl : u = v := by
    rcases hu with hu | rfl
    · exact hu
    · rcases hopen with hquote | hlast
      · simp at hquote
      · simp [List.getLast?_cons] at hlast
  refine cons_mem_string.2 ⟨rfl, ?_⟩
  by_cases hquote : d = '"'
  · subst hquote
    exact ⟨u, hv, .inr rfl⟩
  · refine ⟨u ++ [d], fun e he => ?_, .inl rfl⟩
    rcases List.mem_append.1 he with he | he
    · exact hv e he
    · rw [List.mem_singleton.1 he]
      simp [hquote, hd]

end Pattern

/-! ### Side by side -/

/-- What holds of two tokens that stand side by side, the first one in front. -/
structure Piece.Apart (p q : Piece) : Prop where
  /-- No pattern takes in both together. -/
  not_joined : ∀ k, p.text ++ q.text ∉ ofKind k
  not_whitespace : ¬ (p.kind = .whitespace ∧ q.kind = .whitespace)
  not_number : ¬ (p.kind = .number ∧ q.kind = .number)
  /-- A comment goes to the end of its line. -/
  behind_comment : p.kind = .comment → q.kind = .newline
  /-- A string without a closing quote does so too. -/
  behind_open : p.kind = .string → IsOpen p.text → q.kind = .newline
  /-- Behind a word, no word and no number begins. -/
  behind_word : p.kind = .identifier ∨ p.kind = .keyword →
    q.kind ≠ .identifier ∧ q.kind ≠ .keyword ∧ q.kind ≠ .number

namespace Token

variable {c d : Char} {u v : Text}

theorem isNumeric_of_isDigit (h : c.isDigit = true) : isNumeric c = true := by
  rw [isNumeric, h, Bool.true_or]

theorem isWordChar_of_isDigit (h : c.isDigit = true) : Text.isWordChar c = true := by
  rw [Text.isWordChar, Char.isAlphanum, h, Bool.or_true, Bool.true_or]

theorem isWordChar_of_isWordStart (h : isWordStart c = true) : Text.isWordChar c = true := by
  rw [isWordStart, Bool.or_eq_true] at h
  rw [Text.isWordChar, Char.isAlphanum]
  rcases h with h | h <;> simp [h]

/-- A word or a number begins with a character of words. -/
theorem isWordChar_of_mem {k : TokenKind} (h : d :: v ∈ ofKind k)
    (hk : k = .identifier ∨ k = .keyword ∨ k = .number) : Text.isWordChar d = true := by
  rcases hk with rfl | rfl | rfl
  · exact isWordChar_of_isWordStart (cons_mem_one_mul_many.1 h).1
  · exact isWordChar_of_isWordStart (cons_mem_one_mul_many.1 (mem_identifier_of_mem_keyword h)).1
  · exact isWordChar_of_isDigit (cons_mem_one_mul_many.1 h).1

/-- Two pieces of which the first is the longest match in front of the second are apart. -/
theorem apart_of_longest {p q : Piece} {rest : Text} (h : Longest (p.text ++ (q.text ++ rest)) p)
    (hne : q.text ≠ []) (hq : q.text ∈ ofKind q.kind) : p.Apart q := by
  obtain ⟨pk, pt⟩ := p
  obtain ⟨qk, qt⟩ := q
  obtain ⟨c, u, rfl⟩ := List.exists_cons_of_ne_nil h.candidate.ne_nil
  obtain ⟨d, v, rfl⟩ := List.exists_cons_of_ne_nil hne
  have hmem : c :: u ∈ ofKind pk := h.candidate.mem
  -- The next character alone is too much for every pattern.
  have hnext : ∀ k, c :: u ++ [d] ∉ ofKind k :=
    h.append_not_mem (List.cons_ne_nil d []) (List.cons_prefix_cons.2 ⟨rfl, List.nil_prefix⟩)
  have hbreak : d = '\n' → qk = .newline := by
    rintro rfl
    by_contra hk
    exact oneLine_of_mem hq hk List.mem_cons_self
  refine ⟨h.append_not_mem hne (List.prefix_append ..), ?whitespace, ?number, ?comment, ?string,
    ?word⟩
  case whitespace =>
    rintro ⟨rfl, rfl⟩
    obtain ⟨hd, _⟩ := cons_mem_one_mul_many.1 hq
    exact hnext .whitespace (concat_mem_one_mul_many hmem hd)
  case number =>
    rintro ⟨rfl, rfl⟩
    obtain ⟨hd, _⟩ := cons_mem_one_mul_many.1 hq
    exact hnext .number (concat_mem_one_mul_many hmem (isNumeric_of_isDigit hd))
  case comment =>
    rintro rfl
    by_contra hk
    exact hnext .comment (concat_mem_comment hmem (mt hbreak hk))
  case string =>
    rintro rfl hopen
    by_contra hk
    exact hnext .string (concat_mem_string hmem hopen (mt hbreak hk))
  case word =>
    intro hword
    have hidentifier : c :: u ∈ ofKind .identifier := by
      rcases hword with rfl | rfl
      · exact hmem
      · exact mem_identifier_of_mem_keyword hmem
    have hend : ¬ (qk = .identifier ∨ qk = .keyword ∨ qk = .number) := fun hk =>
      hnext .identifier (concat_mem_one_mul_many hidentifier (isWordChar_of_mem hq hk))
    simpa only [not_or] using hend

/-- The pieces of a source are apart, each from the next. -/
theorem isChain_pieces (source : Text) : (pieces source).IsChain Piece.Apart := by
  by_cases hne : source = []
  · rw [hne, pieces]
    exact .nil
  · obtain ⟨p, rest, hsource, hp, hpieces⟩ := exists_pieces hne
    have : rest.length < source.length := by
      have := List.length_pos_of_ne_nil hp.candidate.ne_nil
      rw [hsource, List.length_append]
      omega
    rw [hpieces, List.isChain_cons]
    refine ⟨fun q hq => ?_, isChain_pieces rest⟩
    have hrest : rest ≠ [] := by
      rintro rfl
      rw [pieces] at hq
      cases hq
    obtain ⟨first, more, rfl, hfirst, hmore⟩ := exists_pieces hrest
    rw [hmore] at hq
    cases hq
    rw [hsource] at hp
    exact apart_of_longest hp hfirst.candidate.ne_nil hfirst.candidate.mem
termination_by source.length

end Token

/-- Cutting a source again changes nothing: each of its tokens is the only token of its own text,
at the start. And no two tokens side by side could have been one: whitespace and numbers are whole,
comments and open strings go to the end of their line, and words to the end of the word. -/
theorem neighbours_apart (source : Text) :
    (∀ t ∈ tokenize source, tokenize t.text = [⟨t.kind, t.text, .ofText ⟨1, 1, 0⟩ t.text⟩]) ∧
      (tokenize source).IsChain fun t u => t.piece.Apart u.piece := by
  refine ⟨fun t ht => Token.tokenize_text ht, ?_⟩
  rw [← List.isChain_map, Token.map_piece_tokenize]
  exact Token.isChain_pieces source

/-- A string that stays open behind half an operator stays open on its own. -/
theorem neighbours_apart_of_open_string :
    ∃ t ∈ tokenize "a!\"b\n", t.text = "\"b" ∧ t.span.start = ⟨1, 3, 2⟩ ∧
      tokenize t.text = [⟨.string, "\"b", .ofText ⟨1, 1, 0⟩ "\"b"⟩] := by
  let t : Token := ⟨.string, "\"b", .ofText ⟨1, 3, 2⟩ "\"b"⟩
  have ht : t ∈ tokenize "a!\"b\n" := by decide +kernel
  exact ⟨t, ht, rfl, rfl, (neighbours_apart "a!\"b\n").1 t ht⟩

end VibeScript
