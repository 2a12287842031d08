import VibeScript.Json
import VibeScript.Proofs.WrittenNumbers

/-!
A reader of documents. It takes the text of a document apart, whatever blanks stand between its
parts, and knows nothing of how documents are written: not how far a line is indented, which
characters of a string are spelled out, or in which layout a number is.

Each reader takes what it reads from the front of a text and gives the rest. A part is read the same
in front of every rest that does not go on with it (`Json.Reads`). No part is deeper than the text
has characters, which bounds the turns that a reader needs.
-/

namespace VibeScript

namespace Json

/-! ### Strings -/

/-- What a hexadecimal digit stands for. -/
def hexValue? (c : Char) : Option Nat :=
  if c.isDigit then some (c.toNat - '0'.toNat)
  else if 'a'.toNat ≤ c.toNat ∧ c.toNat ≤ 'f'.toNat then some (10 + (c.toNat - 'a'.toNat))
  else none

/-- The character of four hexadecimal digits. -/
def character? (a b c d : Char) : Option Char := do
  let a ← hexValue? a
  let b ← hexValue? b
  let c ← hexValue? c
  let d ← hexValue? d
  return Char.ofNat (((a * 16 + b) * 16 + c) * 16 + d)

/-- The character that stands behind a backslash for itself or for another one. -/
def escaped? : Char → Option Char
  | '"' => some '"'
  | '\\' => some '\\'
  | '/' => some '/'
  | 'b' => some '\x08'
  | 't' => some '\t'
  | 'n' => some '\n'
  | 'f' => some '\x0C'
  | 'r' => some '\r'
  | _ => none

/-- Reads a string behind its opening quote. -/
def readString : Text → Option (Text × Text)
  | '"' :: t => some ([], t)
  | '\\' :: 'u' :: a :: b :: c :: d :: t => do
    let e ← character? a b c d
    (readString t).map (Prod.map (e :: ·) id)
  | '\\' :: c :: t => do
    let e ← escaped? c
    (readString t).map (Prod.map (e :: ·) id)
  | c :: t => if c.toNat < 0x20 then none else (readString t).map (Prod.map (c :: ·) id)
  | [] => none

/-! ### Readers -/

/-- Whether a character may stand between the parts of a document. -/
def isSpace (c : Char) : Bool := c == ' ' || c == '\t' || c == '\n' || c == '\r'

/-- The text from its first part on. -/
def skip (t : Text) : Text := t.dropWhile isSpace

/-- Whether a character is one of words and numbers. -/
def isAtomChar (c : Char) : Bool := c.isAlphanum || c == '+' || c == '-' || c == '.'

/-- What a word or a number stands for. Digits alone are a count. -/
def atom? (t : Text) : Option Json :=
  if t = "null" then some null
  else if t = "true" then some (boolean true)
  else if t = "false" then some (boolean false)
  else if Text.isDigits t then some (count (Text.toNat t))
  else (Number.read? t).map number

section

variable {α : Type} (close : Char) (element : Text → Option (α × Text))

/-- Reads the elements behind the first one, each behind a comma, and the bracket that closes. -/
def readMore : Nat → Text → Option (List α × Text)
  | 0, _ => none
  | n + 1, t =>
    match skip t with
    | [] => none
    | c :: t =>
      if c = close then some ([], t)
      else if c = ',' then do
        let (a, t) ← element (skip t)
        (readMore n t).map (Prod.map (a :: ·) id)
      else none

/-- Reads elements and the bracket that closes. -/
def readGroup (n : Nat) (t : Text) : Option (List α × Text) :=
  match skip t with
  | [] => none
  | c :: t =>
    if c = close then some ([], t)
    else do
      let (a, t) ← element (c :: t)
      (readMore close element n t).map (Prod.map (a :: ·) id)

end

/-- Reads a name, a colon and a value. -/
def readMember (value : Text → Option (Json × Text)) : Text → Option ((Text × Json) × Text)
  | '"' :: t => do
    let (name, t) ← readString t
    match skip t with
    | ':' :: t => (value (skip t)).map (Prod.map (name, ·) id)
    | _ => none
  | _ => none

/-- Reads a value in a number of turns. -/
def readValue : Nat → Text → Option (Json × Text)
  | 0, _ => none
  | n + 1, t =>
    match t with
    | '"' :: t => (readString t).map (Prod.map string id)
    | '[' :: t => (readGroup ']' (readValue n) n t).map (Prod.map list id)
    | '{' :: t => (readGroup '}' (readMember (readValue n)) n t).map (Prod.map object id)
    | t => (atom? (t.takeWhile isAtomChar)).map (·, t.dropWhile isAtomChar)

/-- Reads a document. -/
def read? (t : Text) : Option Json :=
  match readValue (t.length + 1) (skip t) with
  | some (j, rest) => if skip rest = [] then some j else none
  | none => none

/-! ### Parts -/

/-- Whether a reader reads a text as something, in front of every rest that does not go on with a
word or a number. -/
def Reads {α : Type} (read : Text → Option (α × Text)) (t : Text) (a : α) : Prop :=
  ∀ rest, Text.Stops isAtomChar rest → read (t ++ rest) = some (a, rest)

/-- Whether a text begins with a character that neither separates parts nor closes any. -/
def Opens (t : Text) : Prop := ∃ c u, t = c :: u ∧ isSpace c = false ∧ c ≠ ']' ∧ c ≠ '}'

theorem Opens.append {s : Text} (hs : Opens s) (t : Text) : Opens (s ++ t) := by
  obtain ⟨c, u, rfl, hc⟩ := hs
  exact ⟨c, u ++ t, rfl, hc⟩

end Json

end VibeScript
