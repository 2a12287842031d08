import VibeScript.Proofs.Places

/-!
The longest match. A source may also be cut without rules: at each place the longest piece is taken
that is in the pattern of any kind, and where one piece is in the patterns of two kinds, a word
counts as reserved rather than as a name, and nothing counts as unknown that is something else
(`Longest`). That way of cutting could get stuck, at a place where no pattern takes in anything
(`Scan.stuck`). It never does, and it comes to the same pieces as the ordered rules
(`scan_iff`).
-/

namespace VibeScript

open Pattern

/-! ### The piece at one place -/

/-- Whether `text` may be cut off a source as a token of a kind. -/
structure Candidate (source : Text) (k : TokenKind) (text : Text) : Prop where
  ne_nil : text ≠ []
  isPrefix : text <+: source
  mem : text ∈ ofKind k

/-- Whether one kind gives way to another that takes in the same text. -/
def GivesWay (k l : TokenKind) : Prop :=
  (k = .identifier ∧ l = .keyword) ∨ (k = .unknown ∧ l ≠ .unknown)

/-- The piece to be cut off a source: no candidate is longer, and the kinds of all others that are
as long give way to its own. -/
structure Longest (source : Text) (piece : Piece) : Prop where
  candidate : Candidate source piece.kind piece.text
  length_le : ∀ k t, Candidate source k t → t.length ≤ piece.text.length
  givesWay : ∀ k, Candidate source k piece.text → k = piece.kind ∨ GivesWay k piece.kind

theorem Candidate.exists_cons {c : Char} {rest t : Text} {k : TokenKind}
    (h : Candidate (c :: rest) k t) : ∃ u, t = c :: u ∧ u <+: rest := by
  cases t with
  | nil => exact absurd rfl h.ne_nil
  | cons d u =>
    obtain ⟨rfl, hu⟩ := List.cons_prefix_cons.1 h.isPrefix
    exact ⟨u, rfl, hu⟩

theorem not_givesWay_of_givesWay {k l : TokenKind} (h : GivesWay k l) : ¬GivesWay l k := by
  rcases h with ⟨rfl, rfl⟩ | ⟨rfl, hl⟩
  · rintro (⟨h, _⟩ | ⟨h, _⟩) <;> cases h
  · rintro (⟨_, h⟩ | ⟨h, _⟩)
    · cases h
    · exact hl h

/-- At most one piece is to be cut off. -/
theorem Longest.unique {source : Text} {p q : Piece} (hp : Longest source p)
    (hq : Longest source q) : p = q := by
  have hlength : p.text.length = q.text.length :=
    Nat.le_antisymm (hq.length_le _ _ hp.candidate) (hp.length_le _ _ hq.candidate)
  have htext : p.text = q.text :=
    (List.prefix_of_prefix_length_le hp.candidate.isPrefix hq.candidate.isPrefix
      hlength.le).eq_of_length hlength
  have hkind : p.kind = q.kind := by
    rcases hq.givesWay p.kind (htext ▸ hp.candidate) with h | h
    · exact h
    · rcases hp.givesWay q.kind (htext ▸ hq.candidate) with h' | h'
      · exact h'.symm
      · exact absurd h' (not_givesWay_of_givesWay h)
  cases p
  cases q
  simp_all

namespace Token

variable {c : Char} {rest : Text}

theorem mem_identifier_of_mem_keyword {t : Text} (h : t ∈ ofKind .keyword) :
    t ∈ ofKind .identifier := by
  have hall : ∀ w ∈ reserved,
      w.head?.any isWordStart = true ∧ w.tail.all Text.isWordChar = true := by decide
  obtain ⟨hhead, htail⟩ := hall t h
  cases t with
  | nil => cases hhead
  | cons c u => exact cons_mem_one_mul_many.2 ⟨hhead, List.all_eq_true.1 htail⟩

/-- An operator has one or two characters. -/
theorem operator_cases {u : Text} (h : c :: u ∈ ofKind .operator) :
    (u = [] ∧ isOperator c = true) ∨ ∃ d, u = [d] ∧ isLongOperator c d = true := by
  have hall : ∀ t ∈ operators, (t.tail = [] ∧ t.head?.any isOperator = true) ∨
      (t.tail = ['='] ∧ t.head?.any (isLongOperator · '=') = true) := by decide
  rcases hall _ h with hone | hlong
  · exact .inl hone
  · exact .inr ⟨'=', hlong⟩

theorem runLength_le_stringLength (rest : Text) :
    runLength (fun d => d != '"' && d != '\n') rest ≤ stringLength rest := by
  simp only [stringLength]
  split
  · exact Nat.le_succ _
  · exact Nat.le_refl _

/-- A string ends with its closing quote. -/
theorem stringLength_closed {v : Text} (hv : ∀ d ∈ v, (d != '"' && d != '\n') = true)
    (more : Text) : stringLength (v ++ '"' :: more) = v.length + 1 := by
  have hstops : Text.Stops (fun d => d != '"' && d != '\n') ('"' :: more) :=
    Text.stops_cons.2 rfl
  simp only [stringLength, drop_runLength, Text.dropWhile_run hv hstops]
  rw [runLength, Text.takeWhile_run hv hstops]
  rfl

/-- Whatever pattern takes in the beginning of a source, the rule for this place takes no less, and
if it takes no more, then its kind does not give way. -/
theorem rule_beats {k : TokenKind} {u : Text} (hu : u <+: rest) (hmem : c :: u ∈ ofKind k) :
    u.length ≤ (rule c rest).2 ∧
      (u = rest.take (rule c rest).2 → k = (rule c rest).1 ∨ GivesWay k (rule c rest).1) := by
  cases k with
  | whitespace =>
    obtain ⟨hc, hall⟩ := cons_mem_one_mul_many.1 hmem
    rw [rule_space hc]
    exact ⟨Text.length_le_takeWhile hall hu, fun _ => .inl rfl⟩
  | comment =>
    obtain ⟨rfl, v, rfl, hall⟩ := cons_mem_comment.1 hmem
    obtain ⟨more, rfl⟩ := hu
    rw [List.cons_append, rule_comment]
    refine ⟨Text.length_le_takeWhile ?_ (List.prefix_append ..), fun _ => .inl rfl⟩
    simpa using hall
  | string =>
    obtain ⟨rfl, v, hall, hv⟩ := cons_mem_string.1 hmem
    rw [rule_quote]
    refine ⟨?_, fun _ => .inl rfl⟩
    rcases hv with rfl | rfl
    · exact (Text.length_le_takeWhile hall hu).trans (runLength_le_stringLength rest)
    · obtain ⟨more, rfl⟩ := hu
      rw [List.append_assoc, List.singleton_append, stringLength_closed hall, List.length_append]
      exact Nat.le_refl _
  | number =>
    obtain ⟨hc, hall⟩ := cons_mem_one_mul_many.1 hmem
    rw [rule_digit hc]
    exact ⟨Text.length_le_takeWhile hall hu, fun _ => .inl rfl⟩
  | operator =>
    rcases operator_cases hmem with ⟨rfl, hc⟩ | ⟨d, rfl, hd⟩
    · refine ⟨Nat.zero_le _, fun h => .inl (rule_operator hc ?_).symm⟩
      rintro rfl hhead
      obtain ⟨more, rfl⟩ := List.head?_eq_some_iff.1 hhead
      rw [rule_comment, take_runLength] at h
      cases h
    · obtain ⟨more, rfl⟩ := hu
      rw [List.singleton_append, rule_long hd]
      exact ⟨Nat.le_refl _, fun _ => .inl rfl⟩
  | keyword =>
    obtain ⟨hc, hall⟩ := cons_mem_one_mul_many.1 (mem_identifier_of_mem_keyword hmem)
    rw [rule_word hc]
    refine ⟨Text.length_le_takeWhile hall hu, fun h => .inl ?_⟩
    rcases wordKind_cases (c :: rest.takeWhile Text.isWordChar) with ⟨_, hkind⟩ | ⟨hnot, _⟩
    · exact hkind.symm
    · rw [take_runLength] at h
      rw [← h] at hnot
      exact absurd (mem_keywords_iff.2 hmem) hnot
  | identifier =>
    obtain ⟨hc, hall⟩ := cons_mem_one_mul_many.1 hmem
    rw [rule_word hc]
    refine ⟨Text.length_le_takeWhile hall hu, fun _ => ?_⟩
    rcases wordKind_cases (c :: rest.takeWhile Text.isWordChar) with ⟨_, hkind⟩ | ⟨_, hkind⟩
    · exact .inr (.inl ⟨rfl, hkind⟩)
    · exact .inl hkind.symm
  | newline =>
    obtain ⟨rfl, rfl⟩ := List.cons.inj (List.mem_singleton.1 hmem)
    rw [rule_newline]
    exact ⟨Nat.le_refl _, fun _ => .inl rfl⟩
  | unknown =>
    obtain ⟨_, rfl⟩ := cons_mem_one.1 hmem
    refine ⟨Nat.zero_le _, fun _ => ?_⟩
    by_cases h : (rule c rest).1 = .unknown
    · exact .inl h.symm
    · exact .inr (.inr ⟨rfl, h⟩)

/-- The rule for a place cuts off what is to be cut off there. -/
theorem longest_rule (c : Char) (rest : Text) :
    Longest (c :: rest) ⟨(rule c rest).1, c :: rest.take (rule c rest).2⟩ where
  candidate := {
    ne_nil := fun h => by cases h
    isPrefix := List.cons_prefix_cons.2 ⟨rfl, List.take_prefix ..⟩
    mem := text_mem_ofKind c rest }
  length_le k t h := by
    obtain ⟨u, rfl, hu⟩ := h.exists_cons
    simp only [List.length_cons, List.length_take]
    exact Nat.succ_le_succ (le_min (rule_beats hu h.mem).1 hu.length_le)
  givesWay k h := (rule_beats (List.take_prefix ..) h.mem).2 rfl

end Token

/-! ### The whole source -/

/-- How a source is cut by longest matches into texts, each with its kind. Where no pattern takes in
anything, some text is skipped without a kind. -/
inductive Scan : Text → List (Option TokenKind × Text) → Prop where
  | done : Scan [] []
  | cut {piece : Piece} {rest : Text} {items : List (Option TokenKind × Text)}
      (hlongest : Longest (piece.text ++ rest) piece) (hrest : Scan rest items) :
      Scan (piece.text ++ rest) ((some piece.kind, piece.text) :: items)
  | stuck {skipped rest : Text} {items : List (Option TokenKind × Text)} (hne : skipped ≠ [])
      (hnone : ∀ k t, ¬Candidate (skipped ++ rest) k t) (hrest : Scan rest items) :
      Scan (skipped ++ rest) ((none, skipped) :: items)

/-- The pieces of a source begin with the one to be cut off, and go on with those of the rest. -/
theorem Token.exists_pieces {source : Text} (hne : source ≠ []) :
    ∃ piece rest, source = piece.text ++ rest ∧ Longest source piece ∧
      pieces source = piece :: pieces rest := by
  cases source with
  | nil => exact absurd rfl hne
  | cons c rest =>
    refine ⟨⟨(rule c rest).1, c :: rest.take (rule c rest).2⟩, rest.drop (rule c rest).2, ?_,
      longest_rule c rest, by rw [pieces]⟩
    rw [List.cons_append, List.take_append_drop]

/-- A source is cut by longest matches in no other way than by the rules. -/
theorem Scan.eq_pieces {source : Text} {items : List (Option TokenKind × Text)}
    (h : Scan source items) :
    items = (Token.pieces source).map fun p => (some p.kind, p.text) := by
  induction h with
  | done => rw [Token.pieces, List.map_nil]
  | @cut piece rest items hlongest _ ih =>
    have hne : piece.text ++ rest ≠ [] := fun h =>
      hlongest.candidate.ne_nil (List.append_eq_nil_iff.1 h).1
    obtain ⟨first, more, hsource, hfirst, hpieces⟩ := Token.exists_pieces hne
    obtain rfl := hlongest.unique hfirst
    rw [hpieces, List.map_cons, ih, List.append_cancel_left hsource]
  | @stuck skipped rest items hne hnone _ _ =>
    have hne : skipped ++ rest ≠ [] := fun h => hne (List.append_eq_nil_iff.1 h).1
    obtain ⟨first, _, _, hfirst, _⟩ := Token.exists_pieces hne
    exact absurd hfirst.candidate (hnone _ _)

/-- The rules cut a source by longest matches. -/
theorem scan_pieces (source : Text) :
    Scan source ((Token.pieces source).map fun p => (some p.kind, p.text)) := by
  by_cases hne : source = []
  · rw [hne, Token.pieces]
    exact .done
  · obtain ⟨piece, rest, hsource, hpiece, hpieces⟩ := Token.exists_pieces hne
    have : rest.length < source.length := by
      have := List.length_pos_of_ne_nil hpiece.candidate.ne_nil
      rw [hsource, List.length_append]
      omega
    rw [hpieces, List.map_cons]
    subst hsource
    exact .cut hpiece (scan_pieces rest)
termination_by source.length

/-- A piece is reserved if and only if its text is a reserved word. -/
theorem Longest.keyword_iff {source : Text} {piece : Piece} (h : Longest source piece) :
    piece.kind = .keyword ↔ piece.text ∈ Token.keywords := by
  rw [Token.mem_keywords_iff]
  constructor
  · intro hkind
    have hmem := h.candidate.mem
    rw [hkind] at hmem
    exact hmem
  · intro hmem
    have hkeyword : Candidate source .keyword piece.text :=
      ⟨h.candidate.ne_nil, h.candidate.isPrefix, hmem⟩
    rcases h.givesWay _ hkeyword with hkind | ⟨hkind, _⟩ | ⟨hkind, _⟩
    · exact hkind.symm
    · cases hkind
    · cases hkind

/-- Cutting by longest matches comes to the tokens of a source and to nothing else: it gets stuck
nowhere, and no kind is in doubt. The tokens that are reserved are those whose text is a reserved
word. -/
theorem scan_iff (source : Text) :
    (∀ items, Scan source items ↔ items = (tokenize source).map fun t => (some t.kind, t.text)) ∧
      ∀ t ∈ tokenize source, t.kind = .keyword ↔ t.text ∈ Token.keywords := by
  have hitems : (Token.pieces source).map (fun p => (some p.kind, p.text)) =
      (tokenize source).map fun t => (some t.kind, t.text) := by
    rw [← Token.map_piece_tokenize, List.map_map]
    rfl
  rw [← hitems]
  refine ⟨fun items => ⟨Scan.eq_pieces, ?_⟩, ?_⟩
  · rintro rfl
    exact scan_pieces source
  · intro t ht
    have hmem : t.piece ∈ Token.pieces source := by
      rw [← Token.map_piece_tokenize]
      exact List.mem_map_of_mem ht
    obtain ⟨c, rest, hpiece⟩ := Token.exists_rule_of_mem_pieces hmem
    have hlongest := Token.longest_rule c rest
    rw [← hpiece] at hlongest
    exact hlongest.keyword_iff

end VibeScript
