import VibeScript.Command.Print
import VibeScript.Folder

/-!
The command line as a function: from arguments, the files that can be read and whether colour is
forced to an exit code and the texts on the two output streams. The arguments are read first, then
the configuration, then the command is carried out.

The exit code is 0 for success, 1 for a source that fails and 2 for a command that cannot be carried
out at all.
-/

namespace VibeScript

/-- What a command leaves behind. -/
structure Answer where
  exit : Nat
  stdout : Text
  stderr : Text
  deriving DecidableEq, Repr

namespace CommandLine

/-- The files that can be read, by their paths. -/
abbrev Files := Text → Except ReadFault Text

/-- A command that cannot be carried out. -/
def refuse (coloured : Bool) (message : Text) : Answer :=
  ⟨2, [], Print.errorLine coloured message⟩

/-- The exit code of a source that fails or not. -/
def exitCode (failed : Bool) : Nat := if failed then 1 else 0

/-- The configuration file that is used when none is named. -/
def defaultConfig : Text := "kang.toml"

/-- Reads the configuration; a file that does not exist stands for the standard one. -/
def loadConfig (files : Files) (path : Text) : Except Text Config :=
  match files path with
  | .error .missing => .ok .standard
  | .error .notFolder => .ok .standard
  | .error .tooLong => .ok .standard
  | .error fault => .error ("Failed to read config file '" ++ path ++ "': " ++ fault.message)
  | .ok content =>
    match Config.ofToml content with
    | .ok config => .ok config
    | .error fault =>
      .error ("Failed to parse config file '" ++ path ++ "': " ++ fault.message)

/-- Carries out what is to be done with the text of a file. -/
def withSource (files : Files) (coloured : Bool) (file : Text) (act : Text → Answer) : Answer :=
  match files file with
  | .ok source => act source
  | .error fault =>
    refuse coloured ("Failed to read file '" ++ file ++ "': " ++ fault.message)

/-- Runs a source. -/
def run (coloured : Bool) (format : OutputFormat) (source : Text) : Answer :=
  let c := execute source
  match format with
  | .json => ⟨exitCode !c.isOk, Print.line c.toJson.text, []⟩
  | .human => ⟨exitCode !c.isOk, Print.run coloured c, Print.failure coloured c⟩

/-- What a check prints for people. -/
def printCheck (coloured : Bool) (file : Text) (ds : List Diagnostic) : Text × Text :=
  let remarks := ds.flatMap (Print.diagnostic coloured)
  let errors := (Diagnostics.errors ds).length
  if 0 < errors then (remarks, Print.refused coloured file errors)
  else (remarks ++ Print.finished coloured file (Diagnostics.warnings ds).length, [])

/-- Checks a source. -/
def check (coloured : Bool) (format : OutputFormat) (file source : Text) : Answer :=
  let ds := validate source file
  let code := exitCode (Diagnostics.hasErrors ds)
  match format with
  | .json => ⟨code, Print.line (CheckReport.ofDiagnostics ds).toJson.text, []⟩
  | .human =>
    let (stdout, stderr) := printCheck coloured file ds
    ⟨code, stdout, stderr⟩

/-- Prints the tokens of a source. -/
def tokens (source : Text) : Answer :=
  ⟨0, Print.line (Json.list ((tokenize source).map Token.toJson)).text, []⟩

/-- Prints a source with highlighting. -/
def highlightSource (coloured : Bool) (theme : Theme) (format : HighlightFormat) (source : Text) :
    Answer :=
  match format with
  | .html => ⟨0, Print.line (highlight theme source), []⟩
  | .ansi => ⟨0, Print.line (Terminal.highlight coloured source), []⟩

/-- Prints the guide or an entry of it. -/
def guide (coloured : Bool) : Option Text → Answer
  | none => ⟨0, Print.guide coloured, []⟩
  | some id =>
    match Guide.feature? id with
    | some f => ⟨0, Print.feature coloured f, []⟩
    | none => refuse coloured ("No guide entry named '" ++ id ++ "'")

/-- Prints the list of the samples, or runs one. -/
def examples (coloured : Bool) : Option Text → Answer
  | none => ⟨0, Print.samples coloured, []⟩
  | some name =>
    match Guide.sample? name with
    | some s =>
      let c := execute s.code
      ⟨exitCode !c.isOk, Print.sample coloured s c, Print.failure coloured c⟩
    | none => refuse coloured ("No example named '" ++ name ++ "'")

/-- Carries out a command. -/
def carryOut (files : Files) (coloured : Bool) (config : Config) : Command → Answer
  | .run file format =>
    withSource files coloured file (run coloured (format.getD config.output.format))
  | .check file format =>
    withSource files coloured file (check coloured (format.getD config.output.format) file)
  | .tokens file => withSource files coloured file tokens
  | .highlight file format =>
    withSource files coloured file (highlightSource coloured config.highlight format)
  | .guide id => guide coloured id
  | .examples name => examples coloured name

/-- Carries out a command line whose arguments have been read. -/
def invoke (files : Files) (coloured : Bool) (i : Invocation) : Answer :=
  match loadConfig files (i.config.getD defaultConfig) with
  | .error message => refuse coloured message
  | .ok config => carryOut files (coloured && config.output.color) config i.command

/-- Answers a command line. -/
def answer (files : Files) (coloured : Bool) (args : List Text) : Answer :=
  match Arguments.read args with
  | .ok i => invoke files coloured i
  | .error .version => ⟨0, Print.version, []⟩
  | .error .help => ⟨0, Print.overview, []⟩
  | .error .misuse => ⟨2, [], Print.overview⟩

/-- The file that a command is about. -/
def Command.file? : Command → Option Text
  | .run file _ => some file
  | .check file _ => some file
  | .tokens file => some file
  | .highlight file _ => some file
  | .guide _ => none
  | .examples _ => none

/-- The paths of the files that a command line may read. -/
def paths (args : List Text) : List Text :=
  match Arguments.read args with
  | .ok i => i.config.getD defaultConfig :: (Command.file? i.command).toList
  | .error _ => []

end CommandLine

end VibeScript
