import VibeScript.Highlight
import VibeScript.Proofs.Places

/-!
Where a source may be taken apart. If no rule looks past a place, then what stands before it and
what stands behind it are cut into pieces on their own (`pieces_append`). No rule looks past a line
break: every run of characters ends there, and no operator of two characters has one in it
(`rule_append_break`). So a source is cut into tokens line by line, and highlighted line by line
(`tokenize_append_break`).
-/

namespace VibeScript

/-- A run does not go on where it stops. -/
theorem Text.Stops.takeWhile_append {p : Char → Bool} {t : Text} (ht : Stops p t) (s : Text) :
    (s ++ t).takeWhile p = s.takeWhile p := by
  induction s with
  | nil => exact ht.takeWhile_eq_nil
  | cons c s ih => simp [List.takeWhile_cons, ih]

/-- The same token further down. -/
def Token.shift (lines bytes : Nat) (t : Token) : Token :=
  { t with span := t.span.shift lines bytes }

namespace Token

variable {c : Char} {rest s t : Text}

/-! ### Pieces -/

theorem runLength_le (p : Char → Bool) (t : Text) : runLength p t ≤ t.length :=
  (List.takeWhile_prefix p).length_le

theorem runLength_append {p : Char → Bool} (ht : Text.Stops p t) (s : Text) :
    runLength p (s ++ t) = runLength p s := by
  rw [runLength, ht.takeWhile_append, runLength]

theorem stringLength_le (rest : Text) : stringLength rest ≤ rest.length := by
  have hinner := runLength_le (fun c => c != '"' && c != '\n') rest
  simp only [stringLength]
  split
  case isTrue hquote =>
    -- The closing quote is still there behind the run.
    rw [beq_iff_eq, List.head?_drop] at hquote
    exact (List.getElem?_eq_some_iff.1 hquote).1
  case isFalse => exact hinner

/-- No rule takes more than there is. -/
theorem rule_le (c : Char) (rest : Text) : (rule c rest).2 ≤ rest.length := by
  fun_cases rule c rest with
  | case1 | case2 | case4 | case7 => exact runLength_le ..
  | case3 => exact stringLength_le rest
  | case5 _ _ _ _ hlong =>
    obtain ⟨d, hhead, _⟩ := (Option.any_eq_true _ _).1 hlong
    obtain ⟨more, rfl⟩ := List.head?_eq_some_iff.1 hhead
    simp
  | case6 | case8 | case9 => exact Nat.zero_le _

/-- Where no rule looks past the end of a text, the text is cut as it is on its own. -/
theorem pieces_append (h : ∀ c rest, c :: rest <:+ s → rule c (rest ++ t) = rule c rest) :
    pieces (s ++ t) = pieces s ++ pieces t := by
  fun_induction pieces s with
  | case1 => simp
  | case2 c rest kind n hrule ih =>
    have hn : n ≤ rest.length := by
      have := rule_le c rest
      rwa [hrule] at this
    have hmore : ∀ d more, d :: more <:+ rest.drop n → rule d (more ++ t) = rule d more := by
      intro d more hsuffix
      exact h d more (hsuffix.trans ((List.drop_suffix n rest).trans (List.suffix_cons c rest)))
    rw [List.cons_append, pieces, h c rest List.suffix_rfl, hrule]
    simp only [List.take_append_of_le_length hn, List.drop_append_of_le_length hn, ih hmore,
      List.cons_append]

/-! ### Line breaks -/

theorem stringLength_append_break (rest b : Text) :
    stringLength (rest ++ '\n' :: b) = stringLength rest := by
  have hstops : Text.Stops (fun c => c != '"' && c != '\n') ('\n' :: b) := Text.stops_cons.2 rfl
  have hinner := runLength_le (fun c => c != '"' && c != '\n') rest
  simp only [stringLength, runLength_append hstops, List.drop_append_of_le_length hinner]
  cases rest.drop (runLength (fun c => c != '"' && c != '\n') rest) <;> rfl

/-- No rule looks past a line break. -/
theorem rule_append_break (c : Char) (rest b : Text) :
    rule c (rest ++ '\n' :: b) = rule c rest := by
  have hspace := runLength_append (p := isSpace) (t := '\n' :: b) (Text.stops_cons.2 rfl) rest
  have hcomment := runLength_append (p := (· != '\n')) (t := '\n' :: b) (Text.stops_cons.2 rfl) rest
  have hnumeric := runLength_append (p := isNumeric) (t := '\n' :: b) (Text.stops_cons.2 rfl) rest
  have hword := runLength_append (p := Text.isWordChar) (t := '\n' :: b) (Text.stops_cons.2 rfl)
    rest
  have htake : (rest ++ '\n' :: b).take (runLength Text.isWordChar rest) =
      rest.take (runLength Text.isWordChar rest) :=
    List.take_append_of_le_length (runLength_le Text.isWordChar rest)
  have hlong : isLongOperator c '\n' = false := by simp [isLongOperator]
  have hheads : ((rest ++ '\n' :: b).head? == some '/') = (rest.head? == some '/') ∧
      (rest ++ '\n' :: b).head?.any (isLongOperator c) = rest.head?.any (isLongOperator c) := by
    cases rest with
    | nil => simp [hlong]
    | cons d rest => simp
  simp only [rule, hspace, hcomment, hnumeric, hword, htake, hheads.1, hheads.2,
    stringLength_append_break]

/-- A source is cut line by line. -/
theorem pieces_append_break (a b : Text) :
    pieces (a ++ '\n' :: b) = pieces a ++ ⟨.newline, ['\n']⟩ :: pieces b := by
  have hbreak : pieces ('\n' :: b) = ⟨.newline, ['\n']⟩ :: pieces b := by
    rw [pieces, rule_newline]
    rfl
  rw [pieces_append fun c rest _ => rule_append_break c rest b, hbreak]

/-! ### Places -/

theorem behind_shift (lines bytes : Nat) (p : Position) (piece : Piece) :
    behind (p.shift lines bytes) piece = (behind p piece).shift lines bytes := by
  simp only [behind, Position.nextLine, Position.advance, Position.shift]
  split <;> simp <;> omega

/-- Pieces that are put further down are the same tokens, all further down. -/
theorem place_shift (lines bytes : Nat) (p : Position) (pieces : List Piece) :
    place (p.shift lines bytes) pieces = (place p pieces).map (shift lines bytes) := by
  induction pieces generalizing p with
  | nil => rfl
  | cons piece more ih =>
    have hspan : Span.ofText (p.shift lines bytes) piece.text =
        (Span.ofText p piece.text).shift lines bytes := by
      simp only [Span.ofText, Span.shift, Position.advance, Position.shift]
      congr 2
      omega
    rw [place, place, behind_shift, ih, List.map_cons, hspan]
    rfl

/-- The second of two runs of pieces stands behind the texts of the first. -/
theorem place_append (before : Text) {ps : List Piece}
    (hps : ∀ p ∈ ps, p.text ∈ Pattern.ofKind p.kind) (qs : List Piece) :
    place (.after before) (ps ++ qs) =
      place (.after before) ps ++ place (.after (before ++ ps.flatMap Piece.text)) qs := by
  induction ps generalizing before with
  | nil => simp [place]
  | cons piece more ih =>
    obtain ⟨hpiece, hmore⟩ := List.forall_mem_cons.1 hps
    rw [List.cons_append, place_cons_after before hpiece, place_cons_after before hpiece,
      ih _ hmore, List.flatMap_cons, List.append_assoc, List.cons_append]

end Token

/-- Sources are cut and highlighted line by line. What stands behind a line break is cut into the
same tokens as it is on its own, further down by the lines and the bytes in front of them, and the
line break is a token between them. In every theme, the HTML of the whole is that of the parts, one
behind the other. -/
theorem tokenize_append_break (a b : Text) :
    tokenize (a ++ '\n' :: b) =
      tokenize a ++ ⟨.newline, ['\n'], .ofText (.after a) ['\n']⟩ ::
        (tokenize b).map (Token.shift (1 + a.count '\n') (1 + Text.byteLength a)) ∧
    ∀ theme : Theme, highlight theme (a ++ '\n' :: b) =
      highlight theme a ++ highlight theme ['\n'] ++ highlight theme b := by
  have hpatterns : ∀ p ∈ Token.pieces a, p.text ∈ Pattern.ofKind p.kind :=
    fun p hp => (Token.mem_ofKind_of_mem_pieces hp).2
  have hnext : (Position.after a).nextLine =
      Position.start.shift (1 + a.count '\n') (1 + Text.byteLength a) := by
    simp only [Position.nextLine, Position.after, Position.shift, Position.start]
    congr 1 <;> omega
  refine ⟨?tokens, fun theme => ?html⟩
  case tokens =>
    have hplace := Token.place_append [] hpatterns (⟨.newline, ['\n']⟩ :: Token.pieces b)
    rw [Token.flatMap_text_pieces, List.nil_append] at hplace
    rw [tokenize, Token.pieces_append_break]
    refine hplace.trans (congrArg (Token.place .start (Token.pieces a) ++ ·) ?_)
    rw [Token.place, tokenize, ← Token.place_shift, ← hnext]
    rfl
  case html =>
    have hbreak := Token.pieces_append_break [] []
    rw [List.nil_append, Token.pieces, List.nil_append] at hbreak
    simp only [highlight, Token.pieces_append_break, hbreak, List.flatMap_append,
      List.flatMap_cons, List.flatMap_nil, List.append_nil, List.append_assoc]

/-- A string that is still open and half an operator end with their lines. -/
example : (tokenize "\"a\n!\n=").map (fun t => (t.kind, t.text)) =
    [(.string, ("\"a" : Text)), (.newline, "\n"), (.unknown, "!"), (.newline, "\n"),
      (.operator, "=")] := by decide +kernel

end VibeScript
