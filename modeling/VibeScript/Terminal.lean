import VibeScript.Token

/-!
Text for terminals: styled stretches between escape sequences, and padding to a width. Where colour
is off a stretch is its own text (`paint_off`), and so is a stretch without a style.
-/

namespace VibeScript

/-- The colours of stretches. -/
inductive Colour where
  | red
  | green
  | yellow
  | blue
  | magenta
  | cyan
  deriving DecidableEq, Repr

/-- How a stretch of text looks. -/
structure Style where
  bold : Bool := false
  dimmed : Bool := false
  italic : Bool := false
  colour : Option Colour := none
  deriving DecidableEq, Repr

namespace Style

/-- The code of a colour. -/
def colourCode : Colour → Text
  | .red => "31"
  | .green => "32"
  | .yellow => "33"
  | .blue => "34"
  | .magenta => "35"
  | .cyan => "36"

/-- The codes of a style, the colour last. -/
def codes (s : Style) : List Text :=
  (if s.bold then [['1']] else []) ++ (if s.dimmed then [['2']] else []) ++
    (if s.italic then [['3']] else []) ++ (s.colour.map colourCode).toList

/-- A style in a colour. -/
def inColour (c : Colour) : Style := { colour := some c }

/-- A bold style in a colour. -/
def boldIn (c : Colour) : Style := { bold := true, colour := some c }

/-- The bold style. -/
def strong : Style := { bold := true }

/-- The dimmed style. -/
def faint : Style := { dimmed := true }

/-- The style of a kind of tokens. -/
def ofToken : TokenKind → Style
  | .keyword => boldIn .magenta
  | .identifier => inColour .cyan
  | .number => inColour .blue
  | .string => inColour .green
  | .operator => inColour .yellow
  | .unknown => inColour .yellow
  | .comment => { dimmed := true, italic := true }
  | .whitespace => {}
  | .newline => {}

end Style

namespace Terminal

/-- The escape sequence of codes. -/
def sequence (codes : List Text) : Text := '\x1B' :: '[' :: [';'].intercalate codes ++ ['m']

/-- The escape sequence that ends every style. -/
def reset : Text := sequence [['0']]

/-- A text in which a style begins again after every reset. -/
def reopen (opening : Text) : Text → Text
  | '\x1B' :: '[' :: '0' :: 'm' :: t => reset ++ opening ++ reopen opening t
  | c :: t => c :: reopen opening t
  | [] => []

/-- A text made at least `width` characters long by spaces behind it. -/
def padEnd (width : Nat) (t : Text) : Text := t ++ List.replicate (width - t.length) ' '

/-- A text made at least `width` characters long by spaces in front of it. -/
def padStart (width : Nat) (t : Text) : Text := List.replicate (width - t.length) ' ' ++ t

/-- Whether the value of a switch in the environment turns it on. -/
def isOn (value : Text) : Bool := value != ['0']

/-- Whether output is coloured: when colour is forced, and else, unless it is ruled out, on a
terminal where it is not turned off. -/
def wantsColour (force ruledOut colour : Option Text) (isTerminal : Bool) : Bool :=
  force.any isOn || (ruledOut.isNone && (colour.map isOn).getD true && isTerminal)

/-- A text in a style, laid out by `pad` between the escape sequences. -/
def paintWith (pad : Text → Text) (coloured : Bool) (style : Style) (t : Text) : Text :=
  if coloured && !style.codes.isEmpty then
    sequence style.codes ++ pad (reopen (sequence style.codes) t) ++ reset
  else pad t

/-- A text in a style. -/
def paint (coloured : Bool) (style : Style) (t : Text) : Text := paintWith id coloured style t

/-- Without colour a text has no style. -/
@[simp] theorem paint_off (style : Style) (t : Text) : paint false style t = t := rfl

/-- A source with its tokens in their styles. -/
def highlight (coloured : Bool) (source : Text) : Text :=
  (Token.pieces source).flatMap fun piece => paint coloured (.ofToken piece.kind) piece.text

/-- Without colour highlighting leaves a source as it is. -/
theorem highlight_off (source : Text) : highlight false source = source := by
  simp only [highlight, paint_off]
  exact Token.flatMap_text_pieces source

end Terminal

end VibeScript
