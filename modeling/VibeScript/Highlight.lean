import VibeScript.Token

/-!
Highlighting as HTML: each token whose class is not empty stands in a `span` of that class. Texts
and classes are escaped, so none of their characters is taken for markup (`isPlain_escape`).
-/

namespace VibeScript

/-- The class of each kind of token; an empty one leaves the tokens of the kind bare. -/
structure Theme where
  keyword : Text
  identifier : Text
  number : Text
  string : Text
  operator : Text
  comment : Text
  whitespace : Text
  newline : Text
  unknown : Text
  deriving DecidableEq, Repr

namespace Theme

/-- The theme that is used when no other is given. -/
def standard : Theme where
  keyword := "text-purple-400 font-semibold"
  identifier := "text-cyan-300"
  number := "text-blue-400"
  string := "text-green-400"
  operator := "text-yellow-400"
  comment := "text-gray-500 italic"
  whitespace := []
  newline := []
  unknown := "text-yellow-400"

/-- The class of a kind. -/
def classOf (t : Theme) : TokenKind → Text
  | .keyword => t.keyword
  | .identifier => t.identifier
  | .number => t.number
  | .string => t.string
  | .operator => t.operator
  | .comment => t.comment
  | .whitespace => t.whitespace
  | .newline => t.newline
  | .unknown => t.unknown

/-- The theme with another class for one kind. -/
def setClass (t : Theme) (kind : TokenKind) (name : Text) : Theme :=
  match kind with
  | .keyword => { t with keyword := name }
  | .identifier => { t with identifier := name }
  | .number => { t with number := name }
  | .string => { t with string := name }
  | .operator => { t with operator := name }
  | .comment => { t with comment := name }
  | .whitespace => { t with whitespace := name }
  | .newline => { t with newline := name }
  | .unknown => { t with unknown := name }

/-- Setting the class of a kind changes that class only. -/
theorem classOf_setClass (t : Theme) (kind other : TokenKind) (name : Text) :
    (t.setClass kind name).classOf other = if other = kind then name else t.classOf other := by
  cases kind <;> cases other <;> rfl

end Theme

namespace Html

/-- A character as it is written in HTML. -/
def escapeChar (c : Char) : Text :=
  match c with
  | '&' => "&amp;"
  | '<' => "&lt;"
  | '>' => "&gt;"
  | '"' => "&quot;"
  | '\'' => "&#39;"
  | c => [c]

/-- A text as it is written in HTML. -/
def escape (t : Text) : Text := t.flatMap escapeChar

/-- Whether a character can neither open nor close a tag or an attribute. -/
def isPlain (c : Char) : Bool := c != '<' && c != '>' && c != '"' && c != '\''

/-- What is written for a character opens and closes nothing. -/
theorem all_isPlain_escapeChar (c : Char) : (escapeChar c).all isPlain = true := by
  unfold escapeChar
  split
  case h_6 => simp_all [isPlain]
  all_goals decide

/-- What is escaped opens and closes nothing. -/
theorem isPlain_escape {t : Text} {c : Char} (h : c ∈ escape t) : isPlain c = true := by
  obtain ⟨d, _, hd⟩ := List.mem_flatMap.1 h
  exact List.all_eq_true.1 (all_isPlain_escapeChar d) c hd

/-- A text in a span of a class, or bare if the class is empty. -/
def mark (className text : Text) : Text :=
  if className.isEmpty then escape text
  else "<span class=\"" ++ escape className ++ "\">" ++ escape text ++ "</span>"

end Html

/-- A source as HTML, highlighted in a theme. -/
def highlight (theme : Theme) (source : Text) : Text :=
  (Token.pieces source).flatMap fun piece => Html.mark (theme.classOf piece.kind) piece.text

end VibeScript
