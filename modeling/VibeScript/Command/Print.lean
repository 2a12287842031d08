import VibeScript.Command.Arguments
import VibeScript.Guide
import VibeScript.Report
import VibeScript.Terminal
import VibeScript.Validation

/-!
What the commands print for people: runs, checks, the guide and the samples. Each printer is told
whether to colour; colour changes the look of stretches of text and never the text itself.
-/

namespace VibeScript.Print

open Terminal (paint paintWith padEnd padStart)

/-- A line. -/
def line (t : Text) : Text := t ++ ['\n']

/-- The beginning of an error message. -/
def errorLabel (coloured : Bool) : Text := paint coloured (.boldIn .red) "error:"

/-- The line of an error message. -/
def errorLine (coloured : Bool) (message : Text) : Text :=
  line (errorLabel coloured ++ ' ' :: message)

/-! ### Runs -/

/-- The line of a binding. -/
def binding (coloured : Bool) (b : Binding) : Text :=
  line ("  " ++ paint coloured (.inColour .cyan) b.name ++ " " ++
    paint coloured .faint ("(" ++ b.value.type.name ++ ")") ++ " " ++ b.value.literal)

/-- The listing of bindings, if there are any. -/
def bindings (coloured : Bool) (bs : List Binding) : Text :=
  if bs.isEmpty then []
  else line [] ++ line (paint coloured .strong "Variables") ++ bs.flatMap (binding coloured)

/-- What a run has printed, and its bindings. -/
def run (coloured : Bool) (c : Context) : Text :=
  c.output.flatMap line ++ bindings coloured c.store.bindings

/-- The failure of a run, if there is one. It is always told in one plain line. The report that
draws the source around the place of a failure, which stands in the place of this line where output
is coloured, is left out; both are for the error stream only. -/
def failure (coloured : Bool) (c : Context) : Text :=
  match c.failure with
  | none => []
  | some f => line [] ++ errorLine coloured f.message

/-! ### Checks -/

/-- The style of a severity. -/
def severityStyle : Severity → Style
  | .error => .boldIn .red
  | .warning => .boldIn .yellow

/-- The marks along the left side of a diagnostic. -/
def margin (coloured : Bool) (mark : Text) : Text := paint coloured (.boldIn .blue) mark

/-- The source of a diagnostic, between two empty lines with a bar. -/
def excerpt (coloured : Bool) (number : Nat) (source : Text) : Text :=
  let bar := line ("   " ++ margin coloured ['|'])
  bar ++ line (paintWith (padStart 3) coloured (.boldIn .blue) (Text.ofNat number) ++ " " ++
    margin coloured ['|'] ++ " " ++ source) ++ bar

/-- The hint of a diagnostic. -/
def help (coloured : Bool) (hint : Text) : Text :=
  line ("   " ++ margin coloured ['='] ++ " " ++ paint coloured .strong "help" ++ ": " ++ hint)

/-- A diagnostic. -/
def diagnostic (coloured : Bool) (d : Diagnostic) : Text :=
  line (paint coloured (severityStyle d.severity) d.severity.name ++
    paint coloured .faint ("[" ++ d.code ++ "]") ++ paint coloured .strong [':'] ++ " " ++
      d.message) ++
  line ("  " ++ margin coloured "-->" ++ " " ++ d.file ++ ":" ++ Text.ofNat d.span.start.line ++
    ":" ++ Text.ofNat d.span.start.column) ++
  ((d.context.map (excerpt coloured d.line)).getD []) ++
  ((d.help.map (help coloured)).getD []) ++
  line []

/-- A count of things, with the ending of several. -/
def counted (n : Nat) (thing : Text) : Text :=
  Text.ofNat n ++ ' ' :: thing ++ if n = 1 then [] else ['s']

/-- How a check without errors ended. -/
def success (warnings : Nat) : Text :=
  if warnings = 0 then "successfully" else "with " ++ counted warnings "warning"

/-- The last line of a check without errors. -/
def finished (coloured : Bool) (file : Text) (warnings : Nat) : Text :=
  line (paint coloured (.boldIn .green) "Finished" ++ " `" ++ file ++ "` validated " ++
    success warnings)

/-- The last line of a check with errors. -/
def refused (coloured : Bool) (file : Text) (errors : Nat) : Text :=
  line (paint coloured (.boldIn .red) "error" ++ ": could not validate `" ++ file ++ "` due to " ++
    counted errors "error")

/-! ### The guide and the samples -/

/-- The line of an entry in the list of the guide. -/
def featureLine (coloured : Bool) (f : Feature) : Text :=
  line ("  " ++ paintWith (padEnd 14) coloured (.inColour .cyan) f.id ++ " " ++ f.title ++ " " ++
    paint coloured .faint ("- " ++ f.description))

/-- The short name of a sample, as wide as all of them. -/
def slug (coloured : Bool) (s : Sample) : Text :=
  paintWith (padEnd 24) coloured (.inColour .cyan) s.slug

/-- The samples of a category. -/
def category (coloured : Bool) (name : Text) : Text :=
  line ("  " ++ paint coloured (.boldIn .yellow) name) ++
    (Guide.inCategory name).flatMap fun s =>
      line ("    " ++ slug coloured s ++ " " ++ paint coloured .faint s.description)

/-- The list of the guide. -/
def guide (coloured : Bool) : Text :=
  line (paint coloured .strong "Language Guide") ++ Guide.features.flatMap (featureLine coloured) ++
    line [] ++ line (paint coloured .strong "Examples") ++
    Guide.categories.flatMap (category coloured)

/-- An entry of the guide. -/
def feature (coloured : Bool) (f : Feature) : Text :=
  line (paint coloured (.boldIn .green) f.title) ++ line f.description ++ line [] ++
    line (paint coloured .strong "Syntax") ++
    line ("  " ++ Terminal.highlight coloured f.form) ++ line [] ++
    line (paint coloured .strong "Examples") ++
    f.snippets.flatMap fun s => line ("  " ++ Terminal.highlight coloured s)

/-- The list of the samples. -/
def samples (coloured : Bool) : Text :=
  Guide.samples.flatMap fun s =>
    line ("  " ++ slug coloured s ++ " " ++ s.description ++ " " ++
      paint coloured .faint ("[" ++ s.category ++ "]"))

/-- A sample and what its run prints. -/
def sample (coloured : Bool) (s : Sample) (c : Context) : Text :=
  line (paint coloured (.boldIn .green) "Example" ++ " " ++ s.title) ++ line [] ++
    line (Terminal.highlight coloured s.code) ++ line [] ++ run coloured c

/-! ### The program itself -/

/-- The name and the version of the program. -/
def version : Text := line "kang 0.1.0"

/-- An overview of the commands. It stands for every text that explains how to use the program: for
the help on all commands and on a single one, and for what is said about arguments that do not
fit. -/
def overview : Text :=
  [("A minimal, line-oriented scripting language" : Text), "",
   "Usage: kang [OPTIONS] <COMMAND>", "",
   "Commands:",
   "  run        Execute a KANG script",
   "  check      Check statement syntax without executing",
   "  tokens     Print the token stream as JSON (for debugging)",
   "  highlight  Print the script with syntax highlighting",
   "  guide      Show the language guide, or one feature by id",
   "  examples   List the bundled examples, or run one by name",
   "  help       Print this message or the help of the given subcommand(s)", "",
   "Options:",
   "  -v, --verbose          Verbose mode - log each executed statement to stderr",
   "      --config <CONFIG>  Path to the config file (defaults to ./kang.toml)",
   "  -h, --help             Print help",
   "  -V, --version          Print version"].flatMap line

end VibeScript.Print
