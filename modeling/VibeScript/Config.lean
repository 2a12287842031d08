import VibeScript.Highlight
import VibeScript.Number.Layout
import VibeScript.Text.Quoted
import VibeScript.Toml.Document

/-!
The configuration of the command line: the classes of highlighting, the format of reports and
whether they are coloured. It is read from a TOML document in which every entry may be missing and
unknown ones are ignored. A table may also be written as a list, which gives the values of its
entries in their order.
-/

namespace VibeScript

/-- The form in which results are printed. -/
inductive OutputFormat where
  | human
  | json
  deriving DecidableEq, Repr

/-- The name of a format. -/
def OutputFormat.name : OutputFormat → Text
  | human => "human"
  | json => "json"

/-- How results are printed. -/
structure OutputConfig where
  format : OutputFormat
  color : Bool
  deriving DecidableEq, Repr

/-- The configuration. -/
structure Config where
  highlight : Theme
  output : OutputConfig
  deriving DecidableEq, Repr

/-- Results are printed for people and in colour. -/
def OutputConfig.standard : OutputConfig := ⟨.human, true⟩

/-- The configuration that is used when there is no other. -/
def Config.standard : Config := ⟨.standard, .standard⟩

/-- Why a document is no configuration. -/
inductive ConfigFault where
  /-- The text is not TOML. -/
  | notToml
  /-- A value is of another type than the one wanted. -/
  | wrongType (found wanted : Text)
  /-- A format is unknown. -/
  | unknownFormat (name : Text)
  /-- A format is neither a string nor a table. -/
  | noFormat
  /-- A format is a table without entries. -/
  | emptyFormat
  /-- A format is a table of several entries. -/
  | severalFormats
  /-- A format has contents. -/
  | filledFormat (what : Text)
  /-- A format stands as a key before something other than a table. -/
  | formatOfValue (found : Text)
  deriving DecidableEq, Repr

/-- The message of a fault in a configuration. -/
def ConfigFault.message : ConfigFault → Text
  | notToml => "invalid TOML"
  | wrongType found wanted => "invalid type: " ++ found ++ ", expected " ++ wanted
  | unknownFormat name => "unknown variant `" ++ name ++ "`, expected `human` or `json`"
  | noFormat => "wanted string or table"
  | emptyFormat => "wanted exactly 1 element, found 0 elements"
  | severalFormats => "wanted exactly 1 element, more than 1 element"
  | filledFormat what => "expected empty " ++ what
  | formatOfValue found => "expected table, found " ++ found

namespace Toml

/-- Floats in messages have all their places, and a point in any case. -/
def shownFloat : Layout := ⟨-400, 400, true, true, .up⟩

/-- The text of a float in a message. -/
def floatText : Number → Text
  | .undefined => "NaN"
  | .signed negative m =>
    if m.isFinite then shownFloat.signed negative m else if negative then "-inf" else "inf"

/-- The text of an integer. -/
def integerText (i : Int) : Text :=
  if i < 0 then '-' :: Text.ofNat i.natAbs else Text.ofNat i.natAbs

/-- A value as a message about its type describes it. -/
def Value.describe : Value → Text
  | string s => "string " ++ Text.quoted s
  | integer i => "integer `" ++ integerText i ++ "`"
  | float n => "floating point `" ++ floatText n ++ "`"
  | unfit => "number"
  | boolean b => "boolean `" ++ (if b then "true" else "false") ++ "`"
  | moment => "map"
  | array .. => "sequence"
  | table .. => "map"

/-- The name of the type of a value. -/
def Value.typeName : Value → Text
  | string _ => "string"
  | integer _ => "integer"
  | float _ => "float"
  | unfit => "number"
  | boolean _ => "boolean"
  | moment => "datetime"
  | array .. => "array"
  | table .. => "table"

end Toml

namespace Config

open Toml (Value Entries)

/-- A value of another type than the one wanted. -/
def wrong {α : Type} (v : Value) (wanted : Text) : Except ConfigFault α :=
  .error (.wrongType v.describe wanted)

/-- Passes over a value that nobody asked for; an unfit number is a fault even there. -/
def ignore {α : Type} (v : Value) (a : α) : Except ConfigFault α :=
  if v.isFit then .ok a else .error .notToml

/-- A string. -/
def string : Value → Except ConfigFault Text
  | .string s => .ok s
  | v => wrong v "a string"

/-- A boolean. -/
def boolean : Value → Except ConfigFault Bool
  | .boolean b => .ok b
  | v => wrong v "a boolean"

/-- The format of a name. -/
def formatOfName (name : Text) : Except ConfigFault OutputFormat :=
  if name = "human" then .ok .human
  else if name = "json" then .ok .json
  else .error (.unknownFormat name)

/-- Accepts what has no contents. -/
def empty : Value → Except ConfigFault Unit
  | .array _ items => if items.isEmpty then .ok () else .error (.filledFormat "array")
  | .table _ entries => if entries.isEmpty then .ok () else .error (.filledFormat "table")
  | v => .error (.formatOfValue v.typeName)

/-- A format: its name, or a table with its name as the only key and nothing behind it. -/
def format : Value → Except ConfigFault OutputFormat
  | .string name => formatOfName name
  | .table _ [] => .error .emptyFormat
  | .table _ [(name, v)] => do
    let f ← formatOfName name
    empty v
    return f
  | .table .. => .error .severalFormats
  | _ => .error .noFormat

/-- Reads a table entry by entry or a list item by item. Items stand for the entries in the order of
`keys`; a moment is read as a table of unknown entries. -/
def readTable {α : Type} (name : Text) (keys : List Text)
    (set : Text → Value → α → Except ConfigFault α) (start : α) : Value → Except ConfigFault α
  | .table _ entries => entries.foldlM (fun a (key, v) => set key v a) start
  | .array _ items => (keys.zip items).foldlM (fun a (key, v) => set key v a) start
  | .moment => .ok start
  | v => wrong v ("struct " ++ name)

/-- Sets the class of a kind of tokens. -/
def setClass (key : Text) (v : Value) (t : Theme) : Except ConfigFault Theme :=
  match TokenKind.all.find? fun kind => kind.name == key with
  | some kind => return t.setClass kind (← string v)
  | none => ignore v t

/-- Sets an entry of the output. -/
def setOutput (key : Text) (v : Value) (o : OutputConfig) : Except ConfigFault OutputConfig :=
  if key = "format" then return { o with format := ← format v }
  else if key = "color" then return { o with color := ← boolean v }
  else ignore v o

/-- The classes of highlighting. -/
def readTheme (v : Value) : Except ConfigFault Theme :=
  readTable "HighlightTheme" (TokenKind.all.map TokenKind.name) setClass .standard v

/-- The output. -/
def readOutput (v : Value) : Except ConfigFault OutputConfig :=
  readTable "OutputConfig" ["format", "color"] setOutput .standard v

/-- Sets an entry of the configuration. -/
def setEntry (c : Config) (entry : Text × Value) : Except ConfigFault Config :=
  if entry.1 = "highlight" then return { c with highlight := ← readTheme entry.2 }
  else if entry.1 = "output" then return { c with output := ← readOutput entry.2 }
  else ignore entry.2 c

/-- The configuration of the entries of a document. A document that is no configuration and has
numbers past sixty-four bits is blamed for the numbers. -/
def ofEntries (es : Entries) : Except ConfigFault Config :=
  match es.foldlM setEntry .standard with
  | .ok c => .ok c
  | .error fault => .error (if es.isPlain then fault else .notToml)

/-- The configuration of a TOML document. -/
def ofToml (source : Text) : Except ConfigFault Config :=
  match Toml.Document.read? source with
  | none => .error .notToml
  | some entries => ofEntries entries

/-- An empty document is the standard configuration. -/
example : ofToml [] = .ok .standard := rfl

end Config

end VibeScript
