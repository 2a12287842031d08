import VibeScript.Number
import VibeScript.Text

/-!
TOML values, and the rules by which tables grow. A table is defined once: by a header, by dotted
keys, or inline. Headers and dotted keys may pass through a list of tables, to its last table, and
through tables that the headers of others or dotted keys have made. Only headers may pass through a
table with a header of its own, and dotted keys end in a table that dotted keys have made.
-/

namespace VibeScript.Toml

/-- How a table came to be. -/
inductive Origin where
  /-- Written between braces, and complete. -/
  | inline
  /-- Named by a header of its own. -/
  | header
  /-- Passed through by the header of another table. -/
  | implied
  /-- Passed through by a dotted key. -/
  | dotted
  deriving DecidableEq, Repr

/-- A TOML value. Tables list their entries in ascending order of the keys. -/
inductive Value where
  | string (s : Text)
  | integer (i : Int)
  | float (n : Number)
  /-- A number that is too large for an integer or a float, or that has no digits behind its base.
  It may stand in a document, but not be read. -/
  | unfit
  | boolean (b : Bool)
  /-- A date, a time or both. -/
  | moment
  /-- A list, which grows when it is made of tables with headers. -/
  | array (grows : Bool) (items : List Value)
  | table (origin : Origin) (entries : List (Text × Value))

/-- The entries of a table. -/
abbrev Entries := List (Text × Value)

/-- The place of a table within a value: the table, and the value with another table in place. -/
structure Slot where
  table : Entries
  fill : Entries → Value

namespace Value

/-- The place of a table that is still open, or of the last table of a list of tables. -/
def slot? : Value → Option Slot
  | table .inline _ => none
  | table origin entries => some ⟨entries, table origin⟩
  | array true items =>
    match items.getLast? with
    | some (table origin entries) =>
      some ⟨entries, fun es => array true (items.dropLast ++ [table origin es])⟩
    | _ => none
  | _ => none

/-- Whether dotted keys may lead through a value. The table that receives the last of the keys must
itself be made of dotted keys; the flag says that this is the one. -/
def isExtensible (receives : Bool) : Value → Bool
  | table .dotted _ => true
  | table .implied _ => !receives
  | array true _ => !receives
  | _ => false

mutual

/-- Whether a value, and all that it holds, has no unfit number and no integer that a test
rejects. -/
def allIntegers (test : Int → Bool) : Value → Bool
  | integer i => test i
  | unfit => false
  | array _ items => allItems test items
  | table _ entries => allEntries test entries
  | _ => true

/-- The same for the items of a list. -/
def allItems (test : Int → Bool) : List Value → Bool
  | [] => true
  | v :: items => v.allIntegers test && allItems test items

/-- The same for the entries of a table. -/
def allEntries (test : Int → Bool) : List (Text × Value) → Bool
  | [] => true
  | (_, v) :: entries => v.allIntegers test && allEntries test entries

end

/-- Whether no number in a value is unfit. -/
def isFit (v : Value) : Bool := v.allIntegers fun _ => true

end Value

/-- Whether an integer fits into sixty-four bits. -/
def isLong (i : Int) : Bool := -(Nat.pow 2 63 : Int) ≤ i && i < Nat.pow 2 63

namespace Entries

/-- Whether all numbers fit into sixty-four bits. -/
def isPlain (es : Entries) : Bool := Value.allEntries isLong es

/-- The value of a key. -/
def get? (es : Entries) (key : Text) : Option Value :=
  (es.find? fun e => e.1 == key).map Prod.snd

/-- Puts an entry in its place, over an earlier one of the same key. -/
def put (key : Text) (value : Value) : Entries → Entries
  | [] => [(key, value)]
  | e :: es =>
    if Text.precedes key e.1 then (key, value) :: e :: es
    else if key = e.1 then (key, value) :: es
    else e :: put key value es

/-- Changes the table to which a header's path leads, making tables on the way. -/
def change (f : Entries → Option Entries) : List Text → Entries → Option Entries
  | [], es => f es
  | key :: path, es =>
    match es.get? key with
    | none => (change f path []).map fun child => es.put key (.table .implied child)
    | some v => do
      let slot ← v.slot?
      let child ← change f path slot.table
      return es.put key (slot.fill child)

/-- Adds the value of a dotted key. -/
def add (value : Value) : List Text → Entries → Option Entries
  | [], _ => none
  | [key], es => if (es.get? key).isSome then none else some (es.put key value)
  | key :: next :: path, es =>
    match es.get? key with
    | none => (add value (next :: path) []).map fun child => es.put key (.table .dotted child)
    | some v => do
      let slot ← if v.isExtensible path.isEmpty then v.slot? else none
      let child ← add value (next :: path) slot.table
      return es.put key (slot.fill child)

/-- Defines the table of a key by a header. -/
def define (key : Text) (es : Entries) : Option Entries :=
  match es.get? key with
  | none => some (es.put key (.table .header []))
  | some (.table .implied child) => some (es.put key (.table .header child))
  | some _ => none

/-- Appends a table to the list of tables of a key. -/
def append (key : Text) (es : Entries) : Option Entries :=
  match es.get? key with
  | none => some (es.put key (.array true [.table .header []]))
  | some (.array true items) => some (es.put key (.array true (items ++ [.table .header []])))
  | some _ => none

end Entries

end VibeScript.Toml
