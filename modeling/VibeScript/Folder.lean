import VibeScript.Text

/-!
Files for the command line: a folder holds entries by their paths, and reading a path gives the text
of a file or the reason why there is none.
-/

namespace VibeScript

/-- What stands under a path. -/
inductive FolderEntry where
  | file (content : Text)
  /-- A file whose bytes are no text. -/
  | binary
  | folder
  deriving DecidableEq, Repr

/-- The entry of a file, by its bytes. -/
def FolderEntry.ofBytes (bytes : ByteArray) : FolderEntry :=
  match String.fromUTF8? bytes with
  | some s => file s.toList
  | none => binary

/-- Why a path cannot be read. -/
inductive ReadFault where
  | missing
  | isFolder
  | notFolder
  | tooLong
  | notText
  deriving DecidableEq, Repr

/-- The message of a reason. -/
def ReadFault.message : ReadFault → Text
  | missing => "No such file or directory (os error 2)"
  | isFolder => "Is a directory (os error 21)"
  | notFolder => "Not a directory (os error 20)"
  | tooLong => "File name too long (os error 36)"
  | notText => "stream did not contain valid UTF-8"

/-- The text of an entry. -/
def FolderEntry.text : FolderEntry → Except ReadFault Text
  | file content => .ok content
  | binary => .error .notText
  | folder => .error .isFolder

/-- The entries below a folder, by their paths. -/
structure Folder where
  entries : List (Text × FolderEntry)

namespace Folder

/-- The parts of a path, between its slashes. -/
def parts (path : Text) : List Text := Text.parts '/' path

/-- Whether a part of a path stays where it is. -/
def isHere (part : Text) : Bool := part.isEmpty || part == ['.']

/-- The entry under the names that lead to it. -/
def entryAt (f : Folder) (names : List Text) : Option FolderEntry :=
  let namesOf (path : Text) := (parts path).filter fun part => !isHere part
  if names.isEmpty then some .folder
  else match f.entries.find? fun e => namesOf e.1 == names with
    | some e => some e.2
    | none => if f.entries.any fun e => names.isPrefixOf (namesOf e.1) then some .folder else none

/-- The outermost folder of a system, as far as every system has the same. -/
def root : Folder :=
  ⟨[("dev/null", .file []), ("etc", .folder), ("tmp", .folder), ("usr", .folder)]⟩

/-- How many bytes a part of a path may take. -/
def maxPart : Nat := 255

/-- How many bytes a path may take. -/
def maxPath : Nat := 4095

/-- Follows the parts of a path from where the names so far have led. The way out of the folder
leads to folders of which nothing more is known. -/
def walk (f : Folder) (names : List Text) : List Text → Except ReadFault FolderEntry
  | [] =>
    match f.entryAt names with
    | some entry => .ok entry
    | none => .error .missing
  | part :: more =>
    match f.entryAt names with
    | none => .error .missing
    | some .folder =>
      if isHere part then walk f names more
      else if part = ".." then
        if names.isEmpty then walk ⟨[]⟩ [] more else walk f names.dropLast more
      else if maxPart < Text.byteLength part then .error .tooLong
      else walk f (names ++ [part]) more
    | some _ => .error .notFolder

/-- The text of the file under a path, which starts at the outermost folder with a slash. -/
def read (f : Folder) (path : Text) : Except ReadFault Text :=
  if path.isEmpty then .error .missing
  else if maxPath < Text.byteLength path then .error .tooLong
  else
    let start := if path.head? == some '/' then root else f
    (walk start [] (parts path)).bind FolderEntry.text

end Folder

end VibeScript
