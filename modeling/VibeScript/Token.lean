import VibeScript.Span

/-!
Tokens: how a source is cut into pieces for display. At each place the first character and what
follows it decide the kind of the next piece and its length; every character begins some piece, so
nothing is left over: the texts of the pieces, joined, are the source (`flatMap_text_pieces`).
-/

namespace VibeScript

/-- The kinds of tokens. -/
inductive TokenKind where
  | whitespace
  | comment
  | string
  | number
  | operator
  | keyword
  | identifier
  | newline
  | unknown
  deriving DecidableEq, Repr

/-- All kinds, in the order in which a theme lists their classes. -/
def TokenKind.all : List TokenKind :=
  [keyword, identifier, number, string, operator, comment, whitespace, newline, unknown]

/-- The name of a kind. -/
def TokenKind.name : TokenKind → Text
  | whitespace => "whitespace"
  | comment => "comment"
  | string => "string"
  | number => "number"
  | operator => "operator"
  | keyword => "keyword"
  | identifier => "identifier"
  | newline => "newline"
  | unknown => "unknown"

/-- A piece of a source: its kind and its text. -/
structure Piece where
  kind : TokenKind
  text : Text
  deriving DecidableEq, Repr

/-- A piece of a source at its place. -/
structure Token where
  kind : TokenKind
  text : Text
  span : Span
  deriving DecidableEq, Repr

namespace Token

/-- The reserved words of the language. -/
def keywords : List Text :=
  ["vibe", "shout", "grind", "add", "sub", "mult", "div", "fr", "same", "keep", "vibing", "high"]

/-! ### The rules -/

/-- The blanks that make up whitespace: spaces, tabs and carriage returns. -/
def isSpace (c : Char) : Bool := c == ' ' || c == '\t' || c == '\r'

/-- The characters of a number behind its first digit. -/
def isNumeric (c : Char) : Bool := c.isDigit || c == '.'

/-- The characters that begin a word. -/
def isWordStart (c : Char) : Bool := c.isAlpha || c == '_'

/-- The operators of one character. -/
def isOperator (c : Char) : Bool :=
  c == '=' || c == '+' || c == '-' || c == '*' || c == '/' || c == '<' || c == '>'

/-- Whether a character and the one behind it are an operator. -/
def isLongOperator (c d : Char) : Bool :=
  d == '=' && (c == '=' || c == '!' || c == '<' || c == '>')

/-- The length of the longest run of characters that satisfy `p` at the start of a text. -/
def runLength (p : Char → Bool) (t : Text) : Nat := (t.takeWhile p).length

/-- The length of a string behind its opening quote: up to the closing quote, or else to the end of
the line. -/
def stringLength (rest : Text) : Nat :=
  let inner := runLength (fun c => c != '"' && c != '\n') rest
  if (rest.drop inner).head? == some '"' then inner + 1 else inner

/-- The kind of a word. -/
def wordKind (word : Text) : TokenKind := if keywords.contains word then .keyword else .identifier

/-- The kind of the piece that begins with `c`, and how many characters of `rest` it takes. -/
def rule (c : Char) (rest : Text) : TokenKind × Nat :=
  if isSpace c then (.whitespace, runLength isSpace rest)
  else if c == '/' && rest.head? == some '/' then (.comment, runLength (· != '\n') rest)
  else if c == '"' then (.string, stringLength rest)
  else if c.isDigit then (.number, runLength isNumeric rest)
  else if rest.head?.any (isLongOperator c) then (.operator, 1)
  else if isOperator c then (.operator, 0)
  else if isWordStart c then
    let n := runLength Text.isWordChar rest
    (wordKind (c :: rest.take n), n)
  else if c == '\n' then (.newline, 0)
  else (.unknown, 0)

/-- Cuts a source into pieces. -/
def pieces : Text → List Piece
  | [] => []
  | c :: rest =>
    let (kind, n) := rule c rest
    ⟨kind, c :: rest.take n⟩ :: pieces (rest.drop n)
termination_by source => source.length
decreasing_by simp only [List.length_drop, List.length_cons]; omega

/-- The pieces of a source, joined, are the source. -/
theorem flatMap_text_pieces (source : Text) : (pieces source).flatMap Piece.text = source := by
  fun_induction pieces source with
  | case1 => rfl
  | case2 c rest kind n _ ih => simp [ih]

/-! ### Places -/

/-- The place behind a piece. -/
def behind (p : Position) (piece : Piece) : Position :=
  if piece.kind == .newline then p.nextLine else p.advance piece.text

/-- Puts pieces at their places, one behind the other. -/
def place (p : Position) : List Piece → List Token
  | [] => []
  | piece :: more => ⟨piece.kind, piece.text, .ofText p piece.text⟩ :: place (behind p piece) more

end Token

/-- Cuts a source into tokens. -/
def tokenize (source : Text) : List Token := Token.place .start (Token.pieces source)

end VibeScript
