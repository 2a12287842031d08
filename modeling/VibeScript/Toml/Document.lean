import VibeScript.Toml.Quoted

/-!
TOML documents: lines that are blank, hold a comment, open a table or give a key its value.
`Document.read?` gives the entries of the outermost table, or none for a text that is not TOML.
-/

namespace VibeScript.Toml.Document

/-! ### Blanks and comments -/

/-- A text without the blanks at its start. -/
def skipBlanks (t : Text) : Text := t.dropWhile Quoted.isBlank

/-- Whether a character may stand in a comment. -/
def isCommentChar (c : Char) : Bool := Quoted.isLineChar c || c == '\r'

/-- A text without blanks, line breaks and comments at its start. The flag says whether the text
starts within a comment. -/
def skipLines : Bool → Text → Option Text
  | _, [] => some []
  | true, c :: t =>
    if c = '\n' then skipLines false t else if isCommentChar c then skipLines true t else none
  | false, c :: t =>
    if c = '#' then skipLines true t
    else if Quoted.isSkipped c then skipLines false t
    else some (c :: t)

/-- What follows the line break at the end of a comment. -/
def afterComment? : Text → Option Text
  | [] => some []
  | c :: t => if c = '\n' then some t else if isCommentChar c then afterComment? t else none

/-- What follows the end of a line on which nothing more stands but a comment. -/
def afterLine? (t : Text) : Option Text :=
  match skipBlanks t with
  | [] => some []
  | '\n' :: t => some t
  | '#' :: t => afterComment? t
  | _ => none

/-- Whether each carriage return stands before a line break. -/
def hasPairedReturns : Text → Bool
  | [] => true
  | '\r' :: '\n' :: t => hasPairedReturns t
  | c :: t => c != '\r' && hasPairedReturns t

/-! ### Keys -/

/-- Whether a character may stand in a key without quotes. -/
def isKeyChar (c : Char) : Bool := c.isAlphanum || c == '_' || c == '-'

/-- A key without dots, and what follows it. -/
def key? : Text → Option (Text × Text)
  | '"' :: t => Quoted.basic t
  | '\'' :: t => Quoted.literal t
  | t =>
    match t.takeWhile isKeyChar with
    | [] => none
    | key => some (key, t.dropWhile isKeyChar)

/-- How many keys may stand between dots, and how many brackets and braces may stand within each
other. -/
def maxDepth : Nat := 80

/-- Keys with dots between them, at most as many as given, and what follows them and blanks. -/
def keys? : Nat → Text → Option (List Text × Text)
  | 0, _ => none
  | most + 1, t => do
    let (key, t) ← key? (skipBlanks t)
    match skipBlanks t with
    | '.' :: t =>
      let (more, t) ← keys? most t
      return (key :: more, t)
    | t => return ([key], t)

/-- What follows an equals sign and the blanks and lines around it. -/
def afterEquals? (t : Text) : Option Text := do
  match ← skipLines false t with
  | '=' :: t => skipLines false t
  | _ => none

/-! ### Bare values -/

/-- The characters that mean something between the values of a document. -/
def marks : Text := ['.', '=', ',', '[', ']', '{', '}', ' ', '\t', '\r', '\n', '#', '"', '\'']

/-- Whether a character means nothing between the values of a document. -/
def isBareChar (c : Char) : Bool := !marks.contains c

/-- What goes on with a bare value behind its first characters, and what follows that: a string, or
blanks with more such characters behind them. -/
def bareMore? (t : Text) : Option (Text × Text) :=
  if t.head? == some '"' || t.head? == some '\'' then
    (Quoted.read? t).map fun (_, rest) => (t.take (t.length - rest.length), rest)
  else
    let rest := skipBlanks t
    if rest.head?.any isBareChar then some (t.takeWhile Quoted.isBlank, rest) else none

/-- A bare value and what follows it: all that stands in a row without a comma, a bracket or the
like. The fuel bounds the number of its pieces. -/
def bare : Nat → Text → Text × Text
  | 0, t => ([], t)
  | fuel + 1, t =>
    let isPart (c : Char) := isBareChar c || c == '.'
    match bareMore? (t.dropWhile isPart) with
    | some (between, rest) =>
      let (more, rest) := bare fuel rest
      (t.takeWhile isPart ++ between ++ more, rest)
    | none => (t.takeWhile isPart, t.dropWhile isPart)

/-! ### Values -/

mutual

/-- A value and what follows it. The fuel bounds the number of values and entries, the depth how
many brackets and braces may stand within each other. -/
def value? : Nat → Nat → Text → Option (Value × Text)
  | 0, _, _ => none
  | fuel + 1, depth, t =>
    match t, depth with
    | '[' :: t, depth + 1 => (items? fuel depth t).map fun (items, t) => (.array false items, t)
    | '{' :: t, depth + 1 =>
      (entries? fuel depth [] t).map fun (entries, t) => (.table .inline entries, t)
    | c :: _, _ =>
      if c = '"' ∨ c = '\'' then (Quoted.read? t).map fun (s, t) => (.string s, t)
      else
        let (scalar, t) := bare (fuel + 1) t
        (Scalar.read? scalar).map fun v => (v, t)
    | [], _ => none

/-- The items of a list up to its closing bracket. -/
def items? : Nat → Nat → Text → Option (List Value × Text)
  | 0, _, _ => none
  | fuel + 1, depth, t => do
    match ← skipLines false t with
    | ']' :: t => return ([], t)
    | t =>
      let (item, t) ← value? fuel depth t
      match ← skipLines false t with
      | ']' :: t => return ([item], t)
      | ',' :: t =>
        let (items, t) ← items? fuel depth t
        return (item :: items, t)
      | _ => none

/-- The entries of a table between braces up to its closing brace. -/
def entries? : Nat → Nat → Entries → Text → Option (Entries × Text)
  | 0, _, _, _ => none
  | fuel + 1, depth, entries, t => do
    match ← skipLines false t with
    | '}' :: t => return (entries, t)
    | t =>
      let (path, t) ← keys? maxDepth t
      let (value, t) ← value? fuel depth (← afterEquals? t)
      let entries ← entries.add value path
      match ← skipLines false t with
      | '}' :: t => return (entries, t)
      | ',' :: t => entries? fuel depth entries t
      | _ => none

end

/-- Keys, an equals sign and a value on one line. -/
def pair? (fuel : Nat) (t : Text) : Option (List Text × Value × Text) := do
  match ← keys? maxDepth t with
  | (path, '=' :: t) =>
    let (value, t) ← value? fuel maxDepth (skipBlanks t)
    return (path, value, t)
  | _ => none

/-! ### Lines -/

/-- What the lines so far have defined, and the table that the next ones belong to. -/
structure Draft where
  root : Entries
  current : List Text

/-- A header of a table, or of one more table in a list of tables. -/
def header? (inList : Bool) (d : Draft) (path : List Text) : Option Draft := do
  let key ← path.getLast?
  let extend := if inList then Entries.append key else Entries.define key
  let root ← Entries.change extend path.dropLast d.root
  return ⟨root, path⟩

/-- Reads what stands on one line, and gives what follows it. -/
def line? (fuel : Nat) (d : Draft) : Text → Option (Draft × Text)
  | [] => some (d, [])
  | '\n' :: t => some (d, '\n' :: t)
  | '#' :: t => some (d, '#' :: t)
  | '[' :: '[' :: t => do
    match ← keys? maxDepth t with
    | (path, ']' :: ']' :: t) => return (← header? true d path, t)
    | _ => none
  | '[' :: t => do
    match ← keys? maxDepth t with
    | (path, ']' :: t) => return (← header? false d path, t)
    | _ => none
  | t => do
    let (path, value, t) ← pair? fuel t
    let root ← Entries.change (Entries.add value path) d.current d.root
    return (⟨root, d.current⟩, t)

/-- Reads line after line. The fuel bounds their number. -/
def lines? (fuel : Nat) : Nat → Draft → Text → Option Entries
  | 0, _, _ => none
  | more + 1, d, t => do
    if t.isEmpty then return d.root
    let (d, t) ← line? fuel d (skipBlanks t)
    lines? fuel more d (← afterLine? t)

/-- Reads a document; a byte order mark at its start does not belong to it. -/
def read? (source : Text) : Option Entries :=
  let t := if source.head? == some '\uFEFF' then source.drop 1 else source
  if hasPairedReturns t then lines? (2 * t.length + 2) (t.length + 1) ⟨[], []⟩ t else none

end VibeScript.Toml.Document
