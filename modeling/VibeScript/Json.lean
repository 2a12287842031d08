import VibeScript.Number.Layout

/-!
JSON documents and how they are written: two spaces of indent for each level, a member or an item a
line, and nothing between the brackets of an empty list. Numbers that are not finite are written as
`null`.
-/

namespace VibeScript

/-- A JSON document; the members of an object are in the order in which they are written. -/
inductive Json where
  | null
  | boolean (b : Bool)
  | count (n : Nat)
  | number (n : Number)
  | string (s : Text)
  | list (items : List Json)
  | object (members : List (Text × Json))

namespace Json

/-! ### Strings -/

/-- The hexadecimal digit of a number below sixteen. -/
def hexDigit (n : Nat) : Char := if n < 10 then Text.digit n else Char.ofNat ('a'.toNat + (n - 10))

/-- A character as it is written between quotes. -/
def escapeChar (c : Char) : Text :=
  match c with
  | '"' => ['\\', '"']
  | '\\' => ['\\', '\\']
  | '\x08' => ['\\', 'b']
  | '\t' => ['\\', 't']
  | '\n' => ['\\', 'n']
  | '\x0C' => ['\\', 'f']
  | '\r' => ['\\', 'r']
  | c =>
    if c.toNat < 0x20 then "\\u00" ++ [hexDigit (c.toNat / 16), hexDigit (c.toNat % 16)] else [c]

/-- A string between quotes. -/
def quote (s : Text) : Text := '"' :: s.flatMap escapeChar ++ ['"']

/-! ### Numbers -/

/-- JSON numbers have all their places from ten to the power -5 up to, but not including, ten to
the power 16, whole ones end in `.0`, and zero keeps its sign. -/
def layout : Layout := ⟨-5, 16, true, true, .even⟩

/-- A number as it is written. -/
def ofNumber : Number → Text
  | .undefined => "null"
  | .signed negative m => if m.isFinite then layout.signed negative m else "null"

/-! ### Documents -/

/-- The start of a line at a level. -/
def newLine (level : Nat) : Text := '\n' :: List.replicate (2 * level) ' '

mutual

/-- A document as it is written at a level. -/
def write (level : Nat) : Json → Text
  | null => "null"
  | boolean b => if b then "true" else "false"
  | count n => Text.ofNat n
  | number n => ofNumber n
  | string s => quote s
  | list [] => ['[', ']']
  | list (item :: items) =>
    '[' :: newLine (level + 1) ++ item.write (level + 1) ++ writeItems (level + 1) items ++
      newLine level ++ [']']
  | object [] => ['{', '}']
  | object ((name, value) :: members) =>
    '{' :: newLine (level + 1) ++ quote name ++ ": " ++ value.write (level + 1) ++
      writeMembers (level + 1) members ++ newLine level ++ ['}']

/-- The items of a list behind the first one. -/
def writeItems (level : Nat) : List Json → Text
  | [] => []
  | item :: items => ',' :: newLine level ++ item.write level ++ writeItems level items

/-- The members of an object behind the first one. -/
def writeMembers (level : Nat) : List (Text × Json) → Text
  | [] => []
  | (name, value) :: members =>
    ',' :: newLine level ++ quote name ++ ": " ++ value.write level ++ writeMembers level members

end

/-- A document as it is written. -/
def text (j : Json) : Text := j.write 0

end Json

end VibeScript
