import VibeScript.Text.Unseen

/-!
Texts between quotes, as messages show them: quotes, backslashes and characters without a picture of
their own are escaped, so that a message stays on one line.
-/

namespace VibeScript.Text

/-- The hexadecimal digits of a number, without leading zeros. -/
def hex (n : Nat) : Text :=
  let digit := if n % 16 < 10 then Text.digit (n % 16) else Char.ofNat ('a'.toNat + (n % 16 - 10))
  if n < 16 then [digit] else hex (n / 16) ++ [digit]

/-- A character as it is shown between quotes. -/
def showChar (c : Char) : Text :=
  match c with
  | '"' => ['\\', '"']
  | '\\' => ['\\', '\\']
  | '\t' => ['\\', 't']
  | '\n' => ['\\', 'n']
  | '\r' => ['\\', 'r']
  | '\x00' => ['\\', '0']
  | c => if isUnseen c then ['\\', 'u', '\x7b'] ++ hex c.toNat ++ ['\x7d'] else [c]

/-- A text between quotes. -/
def quoted (t : Text) : Text := '"' :: t.flatMap showChar ++ ['"']

end VibeScript.Text
