import VibeScript.Proofs.Lines
import VibeScript.Proofs.Pattern
import Mathlib.Data.List.Chain
import Mathlib.Data.List.DropRight

/-!
Where the tokens of a source stand. The place behind a text is found by counting in the text alone
(`Position.after`): its line breaks, the characters of its last line, and its bytes. A token of one
line moves this place along the line, and only a token that is a line break moves it to the next
line, so each token stands behind all that comes before it (`behind_after`). Hence tokens tile their
source: none is empty, each begins where the one before it ends, and each knows its place
(`tiled_tokenize`).
-/

namespace VibeScript

namespace Text

/-- What follows the last line break of a text, or the whole text if it has none. -/
def lastLine (t : Text) : Text := t.rtakeWhile (· != '\n')

theorem lastLine_break (t : Text) : lastLine (t ++ ['\n']) = [] :=
  List.rtakeWhile_concat_neg _ _ _ (by decide)

/-- A text without a line break goes on with the last line. -/
theorem lastLine_append (t : Text) {s : Text} (hs : '\n' ∉ s) :
    lastLine (t ++ s) = lastLine t ++ s := by
  have hall : ∀ c ∈ s.reverse, (c != '\n') = true :=
    not_mem_iff_all_ne.1 (mt List.mem_reverse.1 hs)
  rw [lastLine, List.rtakeWhile, List.reverse_append, List.takeWhile_append_of_pos hall,
    List.reverse_append, List.reverse_reverse]
  rfl

end Text

/-! ### Behind a text -/

/-- The place behind a text that begins a source. -/
def Position.after (t : Text) : Position :=
  ⟨1 + t.count '\n', 1 + (Text.lastLine t).length, Text.byteLength t⟩

theorem Position.after_break (t : Text) : after (t ++ ['\n']) = (after t).nextLine := by
  rw [after, List.count_append, Text.lastLine_break, Text.byteLength_append]
  rfl

theorem Position.after_append (t : Text) {s : Text} (hs : '\n' ∉ s) :
    after (t ++ s) = (after t).advance s := by
  rw [after, List.count_append, List.count_eq_zero.2 hs, Text.lastLine_append t hs,
    List.length_append, Text.byteLength_append, advance, after, Nat.add_zero, Nat.add_assoc]

/-! ### Pieces -/

/-- Only the pattern of line breaks takes in a text with a line break. -/
theorem Pattern.oneLine_of_mem {k : TokenKind} {t : Text} (h : t ∈ ofKind k)
    (hk : k ≠ .newline) : '\n' ∉ t := by
  cases t with
  | nil => exact List.not_mem_nil
  | cons c u =>
    have hrun {p q : Char → Bool} (hp : p '\n' = false) (hq : q '\n' = false)
        (h : c :: u ∈ one p * many q) : '\n' ∉ c :: u := by
      obtain ⟨hc, hu⟩ := cons_mem_one_mul_many.1 h
      intro hmem
      rcases List.mem_cons.1 hmem with rfl | hmem
      · rw [hp] at hc; cases hc
      · have := hu _ hmem
        rw [hq] at this; cases this
    cases k with
    | whitespace => exact hrun rfl rfl h
    | comment =>
      obtain ⟨rfl, v, rfl, hv⟩ := cons_mem_comment.1 h
      intro hmem
      exact hv '\n' (by simpa using hmem) rfl
    | string =>
      obtain ⟨rfl, v, hv, hu⟩ := cons_mem_string.1 h
      have hbreak : '\n' ∉ v := fun hmem => by simpa using hv _ hmem
      rcases hu with rfl | rfl <;> simpa using hbreak
    | number => exact hrun rfl rfl h
    | operator =>
      have hall : ∀ t ∈ operators, '\n' ∉ t := by decide
      exact hall _ h
    | keyword =>
      have hall : ∀ t ∈ reserved, '\n' ∉ t := by decide
      exact hall _ h
    | identifier => exact hrun rfl rfl h
    | newline => exact absurd rfl hk
    | unknown =>
      obtain ⟨hc, rfl⟩ := cons_mem_one.1 h
      rw [List.mem_singleton]
      rintro rfl
      cases hc

namespace Token

theorem mem_ofKind_of_mem_pieces {source : Text} {piece : Piece} (h : piece ∈ pieces source) :
    piece.text ≠ [] ∧ piece.text ∈ Pattern.ofKind piece.kind := by
  obtain ⟨c, rest, rfl⟩ := exists_rule_of_mem_pieces h
  exact ⟨by simp, text_mem_ofKind c rest⟩

/-- The place behind a piece is the one behind all up to its end. -/
theorem behind_after (before : Text) {piece : Piece} (h : piece.text ∈ Pattern.ofKind piece.kind) :
    behind (.after before) piece = .after (before ++ piece.text) := by
  rw [behind]
  split
  case isTrue hk =>
    rw [beq_iff_eq.1 hk] at h
    rw [List.mem_singleton.1 h, Position.after_break]
  case isFalse hk =>
    rw [Position.after_append]
    exact Pattern.oneLine_of_mem h fun he => hk (beq_iff_eq.2 he)

theorem place_cons_after (before : Text) {piece : Piece}
    (h : piece.text ∈ Pattern.ofKind piece.kind) (more : List Piece) :
    place (.after before) (piece :: more) =
      ⟨piece.kind, piece.text, .ofText (.after before) piece.text⟩ ::
        place (.after (before ++ piece.text)) more := by
  rw [place, behind_after before h]

section

variable (before : Text) {pieces : List Piece}

/-- Each token stands behind all texts before it. -/
theorem exists_append_of_mem_place (hpieces : ∀ p ∈ pieces, p.text ∈ Pattern.ofKind p.kind)
    {t : Token} (ht : t ∈ place (.after before) pieces) :
    ∃ front back, pieces.flatMap Piece.text = front ++ t.text ++ back ∧
      t.span = .ofText (.after (before ++ front)) t.text ∧ t.text ∈ Pattern.ofKind t.kind := by
  induction pieces generalizing before with
  | nil => cases ht
  | cons piece more ih =>
    obtain ⟨hpiece, hmore⟩ := List.forall_mem_cons.1 hpieces
    rw [place_cons_after before hpiece] at ht
    rcases List.mem_cons.1 ht with rfl | ht
    · exact ⟨[], more.flatMap Piece.text, rfl, by rw [List.append_nil], hpiece⟩
    · obtain ⟨front, back, htext, hspan, hmem⟩ := ih _ hmore ht
      refine ⟨piece.text ++ front, back, ?_, by rw [hspan, List.append_assoc], hmem⟩
      rw [List.flatMap_cons, htext]
      simp only [List.append_assoc]

/-- Each token begins where the one before it ends. -/
theorem isChain_place (hpieces : ∀ p ∈ pieces, p.text ∈ Pattern.ofKind p.kind) :
    (place (.after before) pieces).IsChain fun t u => t.span.stop.offset = u.span.start.offset := by
  induction pieces generalizing before with
  | nil => exact .nil
  | cons piece more ih =>
    obtain ⟨hpiece, hmore⟩ := List.forall_mem_cons.1 hpieces
    rw [place_cons_after before hpiece, List.isChain_cons]
    refine ⟨?_, ih _ hmore⟩
    cases more with
    | nil => intro u hu; cases hu
    | cons next more =>
      intro u hu
      cases hu
      exact (Text.byteLength_append before piece.text).symm

/-- The last token ends where the texts end. -/
theorem stop_of_getLast?_place (hpieces : ∀ p ∈ pieces, p.text ∈ Pattern.ofKind p.kind)
    {t : Token} (ht : t ∈ (place (.after before) pieces).getLast?) :
    t.span.stop.offset = Text.byteLength (before ++ pieces.flatMap Piece.text) := by
  induction pieces generalizing before with
  | nil => cases ht
  | cons piece more ih =>
    obtain ⟨hpiece, hmore⟩ := List.forall_mem_cons.1 hpieces
    rw [place_cons_after before hpiece] at ht
    cases more with
    | nil =>
      cases ht
      rw [List.flatMap_cons, List.flatMap_nil, List.append_nil, Text.byteLength_append]
      rfl
    | cons next more =>
      rw [place_cons_after _ (hmore _ List.mem_cons_self), List.getLast?_cons_cons,
        ← place_cons_after _ (hmore _ List.mem_cons_self)] at ht
      rw [ih _ hmore ht, List.append_assoc, ← List.flatMap_cons]

end

/-! ### Tokens -/

/-- A token without its place. -/
def piece (t : Token) : Piece := ⟨t.kind, t.text⟩

theorem map_piece_place (p : Position) (pieces : List Piece) :
    (place p pieces).map piece = pieces := by
  induction pieces generalizing p with
  | nil => rfl
  | cons piece more ih => rw [place, List.map_cons, ih]; rfl

theorem map_piece_tokenize (source : Text) : (tokenize source).map piece = pieces source :=
  map_piece_place ..

/-- The tokens of a source, joined, are the source. -/
theorem flatMap_text_tokenize (source : Text) : (tokenize source).flatMap Token.text = source := by
  have h := flatMap_text_pieces source
  rw [← map_piece_tokenize, List.flatMap_map] at h
  exact h

/-- Whether a token knows its place in a source: its start is counted in what the source has before
it, its text follows there, and its end is on the line of its start. -/
structure Placed (source : Text) (t : Token) : Prop where
  start_offset : Text.byteLength (Text.takeBytes t.span.start.offset source) = t.span.start.offset
  start_line : t.span.start.line = 1 + (Text.takeBytes t.span.start.offset source).count '\n'
  start_column :
    t.span.start.column = 1 + (Text.lastLine (Text.takeBytes t.span.start.offset source)).length
  text_prefix : Text.takeBytes t.span.start.offset source ++ t.text <+: source
  stop_line : t.span.stop.line = t.span.start.line
  stop_column : t.span.stop.column = t.span.start.column + t.text.length
  stop_offset : t.span.stop.offset = t.span.start.offset + Text.byteLength t.text

theorem placed_of_span {source front back : Text} {t : Token}
    (hsource : source = front ++ t.text ++ back)
    (hspan : t.span = .ofText (.after front) t.text) : t.Placed source := by
  have hoffset : t.span.start.offset = Text.byteLength front := by rw [hspan]; rfl
  have htake : Text.takeBytes t.span.start.offset source = front := by
    rw [hoffset, hsource, List.append_assoc, Text.takeBytes_append]
  exact {
    start_offset := by rw [htake, hoffset]
    start_line := by rw [htake, hspan]; rfl
    start_column := by rw [htake, hspan]; rfl
    text_prefix := by rw [htake, hsource]; exact List.prefix_append ..
    stop_line := by rw [hspan]; rfl
    stop_column := by rw [hspan]; rfl
    stop_offset := by rw [hspan]; rfl }

end Token

/-- What holds of tokens that divide a source among them. -/
structure Tiled (source : Text) (tokens : List Token) : Prop where
  /-- No token is empty. -/
  ne_nil : ∀ t ∈ tokens, t.text ≠ []
  /-- The texts, joined, are the source. -/
  join : tokens.flatMap Token.text = source
  /-- The first token begins where the source begins. -/
  first : ∀ t ∈ tokens.head?, t.span.start.offset = 0
  /-- Each token begins where the one before it ends. -/
  adjacent : tokens.IsChain fun t u => t.span.stop.offset = u.span.start.offset
  /-- The last token ends where the source ends. -/
  last : ∀ t ∈ tokens.getLast?, t.span.stop.offset = Text.byteLength source
  /-- Each token knows its place. -/
  placed : ∀ t ∈ tokens, t.Placed source
  /-- Only the tokens that are line breaks hold one. -/
  breaks : ∀ t ∈ tokens, '\n' ∈ t.text → t.kind = .newline
  /-- They hold nothing else. -/
  newline : ∀ t ∈ tokens, t.kind = .newline → t.text = ['\n']

/-- A source is tiled by its tokens. -/
theorem tiled_tokenize (source : Text) : Tiled source (tokenize source) := by
  have hpieces : ∀ p ∈ Token.pieces source, p.text ∈ Pattern.ofKind p.kind :=
    fun p hp => (Token.mem_ofKind_of_mem_pieces hp).2
  have hjoin := Token.flatMap_text_pieces source
  have hspan : ∀ t ∈ tokenize source, ∃ front back, source = front ++ t.text ++ back ∧
      t.span = .ofText (.after front) t.text ∧ t.text ∈ Pattern.ofKind t.kind := by
    intro t ht
    obtain ⟨front, back, htext, h⟩ := Token.exists_append_of_mem_place [] hpieces ht
    rw [hjoin] at htext
    exact ⟨front, back, htext, h⟩
  refine ⟨?ne_nil, Token.flatMap_text_tokenize source, ?first, Token.isChain_place [] hpieces,
    ?last, ?placed, ?breaks, ?newline⟩
  case ne_nil =>
    intro t ht
    have hmem : t.piece ∈ Token.pieces source := by
      rw [← Token.map_piece_tokenize]
      exact List.mem_map_of_mem ht
    exact (Token.mem_ofKind_of_mem_pieces hmem).1
  case first =>
    intro t ht
    rw [tokenize] at ht
    cases hcut : Token.pieces source with
    | nil => rw [hcut] at ht; cases ht
    | cons piece more => rw [hcut] at ht; cases ht; rfl
  case last =>
    intro t ht
    rw [Token.stop_of_getLast?_place [] hpieces ht, hjoin, List.nil_append]
  case placed =>
    intro t ht
    obtain ⟨front, back, hsource, hspan, _⟩ := hspan t ht
    exact Token.placed_of_span hsource hspan
  case breaks =>
    intro t ht hmem
    obtain ⟨_, _, _, _, hkind⟩ := hspan t ht
    by_contra hk
    exact Pattern.oneLine_of_mem hkind hk hmem
  case newline =>
    intro t ht hk
    obtain ⟨_, _, _, _, hkind⟩ := hspan t ht
    rw [hk] at hkind
    exact List.mem_singleton.1 hkind

end VibeScript
