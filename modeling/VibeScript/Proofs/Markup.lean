import VibeScript.Highlight
import VibeScript.Proofs.Places

/-!
Highlighted sources are read back. `read` goes through HTML from left to right and takes it apart
into bare text and wrappers; `unescape` puts characters in the place of their entities. Whatever a
source and the classes of a theme hold, the HTML of the source is read as its tokens and as nothing
else, and without its tags it says the source (`read_highlight`).

Nothing escaped opens or closes a tag or an attribute, so each wrapper ends where it was meant to
end. Bare tokens run on into each other, and are read as one bare text (`Segment.push`).
-/

namespace VibeScript

namespace Html

/-! ### Entities -/

/-- Puts characters in the place of their entities, in one pass from left to right. -/
def unescape : Text → Text
  | '&' :: 'a' :: 'm' :: 'p' :: ';' :: t => '&' :: unescape t
  | '&' :: 'l' :: 't' :: ';' :: t => '<' :: unescape t
  | '&' :: 'g' :: 't' :: ';' :: t => '>' :: unescape t
  | '&' :: 'q' :: 'u' :: 'o' :: 't' :: ';' :: t => '"' :: unescape t
  | '&' :: '#' :: '3' :: '9' :: ';' :: t => '\'' :: unescape t
  | c :: t => c :: unescape t
  | [] => []

theorem unescape_cons {c : Char} (hc : c ≠ '&') (t : Text) :
    unescape (c :: t) = c :: unescape t := by
  rw [unescape]
  all_goals
    rintro _ rfl
    exact absurd rfl hc

/-- What is written for a character is read as this character, whatever follows. -/
theorem unescape_escapeChar_append (c : Char) (t : Text) :
    unescape (escapeChar c ++ t) = c :: unescape t := by
  unfold escapeChar
  split
  case h_6 hamp _ _ _ _ => exact unescape_cons hamp t
  all_goals rfl

theorem unescape_escape (t : Text) : unescape (escape t) = t := by
  induction t with
  | nil => rfl
  | cons c t ih =>
    have hcons : escape (c :: t) = escapeChar c ++ escape t := rfl
    rw [hcons, unescape_escapeChar_append, ih]

/-- What a source has of entities is not taken for its own escaping. -/
example : unescape (escape "&lt;") = "&lt;" := by decide

theorem escape_append (s t : Text) : escape (s ++ t) = escape s ++ escape t :=
  List.flatMap_append

theorem escape_ne_nil {t : Text} (ht : t ≠ []) : escape t ≠ [] := by
  intro h
  rw [← unescape_escape t, h] at ht
  exact ht rfl

/-! ### Tags -/

/-- The text without every piece from a `<` to the next `>`. -/
def withoutTags : Text → Text
  | [] => []
  | c :: t =>
    if c = '<' ∧ '>' ∈ t then withoutTags ((t.dropWhile (· != '>')).drop 1)
    else c :: withoutTags t
termination_by t => t.length
decreasing_by
  · have := (List.dropWhile_suffix (· != '>') (l := t)).length_le
    simp only [List.length_drop, List.length_cons]
    omega
  · exact Nat.lt_succ_self _

theorem withoutTags_append {s : Text} (hs : '<' ∉ s) (t : Text) :
    withoutTags (s ++ t) = s ++ withoutTags t := by
  induction s with
  | nil => rfl
  | cons c s ih =>
    obtain ⟨hc, hs⟩ := not_or.1 (mt List.mem_cons.2 hs)
    rw [List.cons_append, withoutTags, if_neg fun h => hc h.1.symm, ih hs, List.cons_append]

theorem withoutTags_tag {s : Text} (hs : '>' ∉ s) (t : Text) :
    withoutTags ('<' :: s ++ '>' :: t) = withoutTags t := by
  rw [List.cons_append, withoutTags, if_pos ⟨rfl, by simp⟩,
    Text.dropWhile_run (Text.not_mem_iff_all_ne.1 hs) (Text.stops_cons.2 rfl), List.drop_one,
    List.tail_cons]

/-! ### Segments -/

/-- A part of HTML: text that stands alone, or a text in a wrapper with its class. -/
inductive Segment where
  | bare (text : Text)
  | wrapped (className text : Text)
  deriving DecidableEq, Repr

/-- How a wrapper begins, up to its class. -/
def wrapperStart : Text := ['<', 's', 'p', 'a', 'n', ' ', 'c', 'l', 'a', 's', 's', '=', '"']

/-- What stands between the class and the text of a wrapper. -/
def wrapperMiddle : Text := ['"', '>']

/-- How a wrapper ends, behind its text. -/
def wrapperEnd : Text := ['<', '/', 's', 'p', 'a', 'n', '>']

namespace Segment

/-- The HTML of a segment. -/
def html : Segment → Text
  | bare text => text
  | wrapped className text => wrapperStart ++ className ++ wrapperMiddle ++ text ++ wrapperEnd

/-- The segment with its texts changed. -/
def map (f : Text → Text) : Segment → Segment
  | bare text => bare (f text)
  | wrapped className text => wrapped (f className) (f text)

/-- Puts a segment in front of others; bare text runs on into bare text. -/
def push : Segment → List Segment → List Segment
  | bare s, bare t :: more => bare (s ++ t) :: more
  | segment, more => segment :: more

end Segment

/-- Reads the wrapper at the start of a text, and gives what follows it. -/
def wrapper? (html : Text) : Option (Segment × Text) := do
  let html ← wrapperStart.isPrefixOf? html
  let className := html.takeWhile (· != '"')
  let html ← wrapperMiddle.isPrefixOf? (html.dropWhile (· != '"'))
  let text := html.takeWhile (· != '<')
  let html ← wrapperEnd.isPrefixOf? (html.dropWhile (· != '<'))
  return (.wrapped className text, html)

theorem wrapper?_eq_some_iff {html rest : Text} {segment : Segment} :
    wrapper? html = some (segment, rest) ↔
      ∃ className text, segment = .wrapped className text ∧ '"' ∉ className ∧ '<' ∉ text ∧
        html = segment.html ++ rest := by
  simp only [wrapper?, Option.bind_eq_bind, Option.bind_eq_some_iff, Option.pure_def,
    List.isPrefixOf?_eq_some_iff_append_eq, Option.some.injEq, Prod.mk.injEq]
  constructor
  · rintro ⟨t, rfl, u, hu, v, hv, rfl, rfl⟩
    refine ⟨_, _, rfl, Text.not_mem_iff_all_ne.2 (List.all_eq_true.1 List.all_takeWhile),
      Text.not_mem_iff_all_ne.2 (List.all_eq_true.1 List.all_takeWhile), ?_⟩
    simp only [Segment.html, List.append_assoc]
    rw [hv, List.takeWhile_append_dropWhile, hu, List.takeWhile_append_dropWhile]
  · rintro ⟨className, text, rfl, hclass, htext, rfl⟩
    have hquote : Text.Stops (· != '"') (wrapperMiddle ++ (text ++ (wrapperEnd ++ rest))) :=
      Text.stops_cons.2 rfl
    have htag : Text.Stops (· != '<') (wrapperEnd ++ rest) := Text.stops_cons.2 rfl
    have hclass := Text.not_mem_iff_all_ne.1 hclass
    have htext := Text.not_mem_iff_all_ne.1 htext
    refine ⟨className ++ (wrapperMiddle ++ (text ++ (wrapperEnd ++ rest))), ?_,
      text ++ (wrapperEnd ++ rest), ?_, rest, ?_, ?_, rfl⟩
    · simp only [Segment.html, List.append_assoc]
    · rw [Text.dropWhile_run hclass hquote]
    · rw [Text.dropWhile_run htext htag]
    · rw [Text.takeWhile_run hclass hquote, Text.takeWhile_run htext htag]

/-- Reads HTML from left to right as bare text, which goes on to the next `<`, and wrappers. -/
def read : Text → Option (List Segment)
  | [] => some []
  | c :: t =>
    if c = '<' then
      match _h : wrapper? (c :: t) with
      | some (segment, rest) => (read rest).map (segment :: ·)
      | none => none
    else
      (read (t.dropWhile (· != '<'))).map (.bare (c :: t.takeWhile (· != '<')) :: ·)
termination_by html => html.length
decreasing_by
  · obtain ⟨_, _, rfl, _, _, htext⟩ := wrapper?_eq_some_iff.1 _h
    rw [htext, Segment.html]
    simp only [List.length_append]
    have : 0 < wrapperEnd.length := by decide
    omega
  · exact Nat.lt_succ_of_le (List.dropWhile_suffix _).length_le

/-- A wrapper in front of HTML is read first. -/
theorem read_wrapped {className text : Text} (hclass : '"' ∉ className) (htext : '<' ∉ text)
    (rest : Text) :
    read ((Segment.wrapped className text).html ++ rest) =
      (read rest).map (Segment.push (.wrapped className text)) := by
  have hwrapper : wrapper? ((Segment.wrapped className text).html ++ rest) =
      some (.wrapped className text, rest) :=
    wrapper?_eq_some_iff.2 ⟨className, text, rfl, hclass, htext, rfl⟩
  obtain ⟨tail, htail⟩ : ∃ tail, (Segment.wrapped className text).html ++ rest = '<' :: tail :=
    ⟨_, rfl⟩
  rw [htail] at hwrapper ⊢
  rw [read, if_pos rfl]
  split
  · rename_i hsome
    rw [hwrapper] at hsome
    cases hsome
    rfl
  · rename_i hnone
    rw [hwrapper] at hnone
    cases hnone

/-- What begins with a `<` does not begin with bare text. -/
theorem push_bare_of_read {t s : Text} {segments : List Segment}
    (h : read ('<' :: t) = some segments) :
    Segment.push (.bare s) segments = .bare s :: segments := by
  rw [read, if_pos rfl] at h
  split at h
  · rename_i hsome
    obtain ⟨_, _, rfl, _⟩ := wrapper?_eq_some_iff.1 hsome
    obtain ⟨more, _, rfl⟩ := Option.map_eq_some_iff.1 h
    rfl
  · cases h

/-- Bare text in front of HTML runs on into it. -/
theorem read_bare {s : Text} (hne : s ≠ []) (hs : '<' ∉ s) (rest : Text) :
    read (s ++ rest) = (read rest).map (Segment.push (.bare s)) := by
  cases s with
  | nil => exact absurd rfl hne
  | cons c s =>
    obtain ⟨hc, hs⟩ := not_or.1 (mt List.mem_cons.2 hs)
    have hall := Text.not_mem_iff_all_ne.1 hs
    rw [List.cons_append, read, if_neg fun h => hc h.symm, List.takeWhile_append_of_pos hall,
      List.dropWhile_append_of_pos hall]
    cases rest with
    | nil =>
      rw [List.takeWhile_nil, List.dropWhile_nil, List.append_nil, read]
      rfl
    | cons d rest =>
      by_cases hd : d = '<'
      · subst hd
        have hstops : Text.Stops (· != '<') ('<' :: rest) := Text.stops_cons.2 rfl
        rw [hstops.takeWhile_eq_nil, hstops.dropWhile_eq_self, List.append_nil]
        cases hread : read ('<' :: rest) with
        | none => rfl
        | some segments => rw [Option.map_some, Option.map_some, push_bare_of_read hread]
      · have hd' : (d != '<') = true := bne_iff_ne.2 hd
        rw [List.takeWhile_cons, if_pos hd', List.dropWhile_cons, if_pos hd', read, if_neg hd,
          Option.map_map]
        rfl

/-! ### Tokens -/

/-- The theme of a class for each kind. -/
def themeOf (classes : TokenKind → Text) : Theme where
  keyword := classes .keyword
  identifier := classes .identifier
  number := classes .number
  string := classes .string
  operator := classes .operator
  comment := classes .comment
  whitespace := classes .whitespace
  newline := classes .newline
  unknown := classes .unknown

theorem classOf_themeOf (classes : TokenKind → Text) : (themeOf classes).classOf = classes := by
  funext kind
  cases kind <;> rfl

/-- The segment of a token: a wrapper, unless its class is empty. -/
def segmentOf (classes : TokenKind → Text) (t : Token) : Segment :=
  if (classes t.kind).isEmpty then .bare t.text else .wrapped (classes t.kind) t.text

/-- The segments of tokens, where bare texts that stand next to each other are one. -/
def segments (classes : TokenKind → Text) (tokens : List Token) : List Segment :=
  (tokens.map (segmentOf classes)).foldr Segment.push []

variable (classes : TokenKind → Text)

theorem not_mem_escape {c : Char} (hc : isPlain c = false) (t : Text) : c ∉ escape t := by
  intro h
  rw [isPlain_escape h] at hc
  cases hc

/-- A token is marked as its segment is written. -/
theorem mark_eq_html (t : Token) :
    mark (classes t.kind) t.text = ((segmentOf classes t).map escape).html := by
  unfold mark segmentOf
  split
  · rfl
  · simp [Segment.map, Segment.html, wrapperStart, wrapperMiddle, wrapperEnd]

theorem highlight_themeOf (source : Text) :
    highlight (themeOf classes) source =
      (tokenize source).flatMap fun t => ((segmentOf classes t).map escape).html := by
  rw [highlight, classOf_themeOf, ← Token.map_piece_tokenize, List.flatMap_map]
  simp only [← mark_eq_html]
  rfl

/-- Escaping the segments of tokens does not depend on whether bare texts are put together first. -/
theorem map_escape_push (segment : Segment) (more : List Segment) :
    (segment.push more).map (Segment.map escape) =
      (segment.map escape).push (more.map (Segment.map escape)) := by
  match segment, more with
  | .bare s, .bare t :: more =>
    simp only [Segment.push, List.map_cons, Segment.map, escape_append]
  | .bare s, .wrapped className t :: more => rfl
  | .bare s, [] => rfl
  | .wrapped className t, more => rfl

/-- The segment of a token in front of HTML is read first. -/
theorem read_segmentOf {t : Token} (hne : t.text ≠ []) (rest : Text) :
    read (((segmentOf classes t).map escape).html ++ rest) =
      (read rest).map (Segment.push ((segmentOf classes t).map escape)) := by
  unfold segmentOf
  split
  · exact read_bare (escape_ne_nil hne) (not_mem_escape rfl _) rest
  · exact read_wrapped (not_mem_escape rfl _) (not_mem_escape rfl _) rest

theorem read_flatMap_html {tokens : List Token} (hne : ∀ t ∈ tokens, t.text ≠ []) :
    read (tokens.flatMap fun t => ((segmentOf classes t).map escape).html) =
      some ((segments classes tokens).map (Segment.map escape)) := by
  induction tokens with
  | nil => rw [List.flatMap_nil, read]; rfl
  | cons t tokens ih =>
    obtain ⟨ht, hne⟩ := List.forall_mem_cons.1 hne
    rw [List.flatMap_cons, read_segmentOf classes ht, ih hne, Option.map_some, ← map_escape_push]
    rfl

theorem map_unescape_map_escape (segments : List Segment) :
    (segments.map (Segment.map escape)).map (Segment.map unescape) = segments := by
  induction segments with
  | nil => rfl
  | cons segment segments ih =>
    rw [List.map_cons, List.map_cons, ih]
    cases segment <;> simp only [Segment.map, unescape_escape]

theorem withoutTags_segmentOf (t : Token) (rest : Text) :
    withoutTags (((segmentOf classes t).map escape).html ++ rest) =
      escape t.text ++ withoutTags rest := by
  have htext : '<' ∉ escape t.text := not_mem_escape rfl _
  unfold segmentOf
  split
  · exact withoutTags_append htext rest
  · have hstart : '>' ∉ wrapperStart.tail ++ escape (classes t.kind) ++ ['"'] := by
      have hclass : '>' ∉ escape (classes t.kind) := not_mem_escape rfl _
      simp [wrapperStart, hclass]
    have hstop : '>' ∉ wrapperEnd.tail.dropLast := by decide
    calc withoutTags (wrapperStart ++ escape (classes t.kind) ++ wrapperMiddle ++
            escape t.text ++ wrapperEnd ++ rest)
        = withoutTags ('<' :: (wrapperStart.tail ++ escape (classes t.kind) ++ ['"']) ++
            '>' :: (escape t.text ++ ('<' :: wrapperEnd.tail.dropLast ++ '>' :: rest))) := by
          simp [wrapperStart, wrapperMiddle, wrapperEnd]
      _ = withoutTags (escape t.text ++ ('<' :: wrapperEnd.tail.dropLast ++ '>' :: rest)) :=
          withoutTags_tag hstart _
      _ = escape t.text ++ withoutTags ('<' :: wrapperEnd.tail.dropLast ++ '>' :: rest) :=
          withoutTags_append htext _
      _ = escape t.text ++ withoutTags rest := by rw [withoutTags_tag hstop]

theorem withoutTags_flatMap_html (tokens : List Token) :
    withoutTags (tokens.flatMap fun t => ((segmentOf classes t).map escape).html) =
      escape (tokens.flatMap Token.text) := by
  induction tokens with
  | nil => rw [List.flatMap_nil, withoutTags]; rfl
  | cons t tokens ih =>
    rw [List.flatMap_cons, withoutTags_segmentOf, ih, List.flatMap_cons, escape_append]

/-- The HTML of a source is read as its tokens. A theme is a class for each kind: each token that
has a class is one wrapper, whose class and text stand for those of the token, and the tokens
without a class are the bare text between. Without its tags, and with characters for entities, the
HTML is the source. -/
theorem read_highlight (theme : Theme) (source : Text) :
    ∃ classes, theme = themeOf classes ∧
      read (highlight theme source) =
        some ((segments classes (tokenize source)).map (Segment.map escape)) ∧
      (read (highlight theme source)).map (List.map (Segment.map unescape)) =
        some (segments classes (tokenize source)) ∧
      unescape (withoutTags (highlight theme source)) = source := by
  have hne := (tiled_tokenize source).ne_nil
  have htheme : theme = themeOf theme.classOf := rfl
  have hhighlight := highlight_themeOf theme.classOf source
  rw [← htheme] at hhighlight
  refine ⟨theme.classOf, htheme, ?_⟩
  rw [hhighlight, read_flatMap_html _ hne, withoutTags_flatMap_html,
    Token.flatMap_text_tokenize, unescape_escape, Option.map_some, map_unescape_map_escape]
  exact ⟨rfl, rfl, rfl⟩

/-- A class that would end its attribute and its tag is read as the class that it is, and tokens
without a class are one bare text, whatever they hold. -/
theorem read_highlight_of_broken_class :
    let html := highlight (themeOf fun kind => if kind = .number then ['"', '>', '&'] else [])
      "1</span>&lt;"
    (read html).map (List.map (Segment.map unescape)) =
        some [.wrapped ['"', '>', '&'] ['1'], .bare "</span>&lt;"] ∧
      unescape (withoutTags html) = "1</span>&lt;" := by
  intro html
  obtain ⟨classes, htheme, _, hread, hsource⟩ := read_highlight
    (themeOf fun kind => if kind = .number then ['"', '>', '&'] else []) "1</span>&lt;"
  have hclasses := congrArg Theme.classOf htheme
  rw [classOf_themeOf, classOf_themeOf] at hclasses
  refine ⟨hread.trans ?_, hsource⟩
  rw [← hclasses]
  decide +kernel

end Html

end VibeScript
