import VibeScript.Config

/-!
The arguments of the command line. They are read one by one from left to right: options of the
program, the name of a command, then options and the operand of that command. An option that has a
value takes it from its own argument or from the next one. Whatever does not fit is a misuse, and
each option may stand once on either side of the name of the command.
-/

namespace VibeScript

/-- The forms in which highlighted sources are printed. -/
inductive HighlightFormat where
  | html
  | ansi
  deriving DecidableEq, Repr

/-- What the command line is asked to do. -/
inductive Command where
  | run (file : Text) (format : Option OutputFormat)
  | check (file : Text) (format : Option OutputFormat)
  | tokens (file : Text)
  | highlight (file : Text) (format : HighlightFormat)
  | guide (id : Option Text)
  | examples (name : Option Text)
  deriving DecidableEq, Repr

/-- A command and the path of the configuration, if one is given. -/
structure Invocation where
  config : Option Text
  command : Command
  deriving DecidableEq, Repr

/-- What ends the reading of arguments early. -/
inductive Interruption where
  | misuse
  | help
  | version
  deriving DecidableEq, Repr

namespace Arguments

/-- The names of commands. -/
inductive Verb where
  | run
  | check
  | tokens
  | highlight
  | guide
  | examples
  | help
  deriving DecidableEq, Repr

/-- The name of a command. -/
def Verb.name : Verb → Text
  | run => "run"
  | check => "check"
  | tokens => "tokens"
  | highlight => "highlight"
  | guide => "guide"
  | examples => "examples"
  | help => "help"

/-- The command of a name. -/
def verb? (name : Text) : Option Verb :=
  [Verb.run, .check, .tokens, .highlight, .guide, .examples, .help].find? fun v => v.name == name

/-- The names of the formats that a command takes. -/
def formats : Verb → List Text
  | .run => ["human", "json"]
  | .check => ["human", "json"]
  | .highlight => ["html", "ansi"]
  | _ => []

/-- The options that have a value. -/
inductive Valued where
  | config
  | format
  deriving DecidableEq, Repr

/-- What has been read on one side of the name of the command. -/
structure Side where
  verbose : Bool
  config : Option Text
  format : Option Text
  operands : List Text
  /-- The option whose value comes next. -/
  pending : Option Valued
  /-- Whether options have ended. -/
  ended : Bool
  deriving DecidableEq, Repr

/-- A side on which nothing has been read. -/
def Side.blank : Side := ⟨false, none, none, [], none, false⟩

/-- What a side of a command allows: `none` stands for the side before the command. -/
abbrev Place := Option Verb

/-- Gives an option its value. -/
def setValue (place : Place) (s : Side) (o : Valued) (v : Text) : Except Interruption Side :=
  match o with
  | .config =>
    if s.config.isSome || v.isEmpty then .error .misuse
    else .ok { s with config := some v, pending := none }
  | .format =>
    if s.format.isSome || !((place.map formats).getD []).contains v then .error .misuse
    else .ok { s with format := some v, pending := none }

/-- Gives an option its value now or waits for it. -/
def setOrAwait (place : Place) (s : Side) (o : Valued) (v : Option Text) :
    Except Interruption Side :=
  match v with
  | some v => setValue place s o v
  | none => .ok { s with pending := some o }

/-- Whether a command takes a format. -/
def takesFormat (place : Place) : Bool := !((place.map formats).getD []).isEmpty

/-- Switches on what can be switched on once. -/
def setVerbose (s : Side) : Except Interruption Side :=
  if s.verbose then .error .misuse else .ok { s with verbose := true }

/-- An option by its long name, and its value if that is in the same argument. -/
def readLong (place : Place) (s : Side) (name : Text) (v : Option Text) :
    Except Interruption Side :=
  if name = "config" then setOrAwait place s .config v
  else if name = "format" && takesFormat place then setOrAwait place s .format v
  else if v.isSome then .error .misuse
  else if name = "verbose" then setVerbose s
  else if name = "help" then .error .help
  else if name = "version" && place.isNone then .error .version
  else .error .misuse

/-- A text without an equals sign at its start. -/
def withoutEquals : Text → Text
  | '=' :: t => t
  | t => t

/-- Options by their letters; what follows the letter of an option with a value is its value. -/
def readShort (place : Place) (s : Side) : Text → Except Interruption Side
  | [] => .ok s
  | c :: t =>
    if c = 'v' then (setVerbose s).bind fun s => readShort place s t
    else if c = 'h' then .error .help
    else if c = 'V' && place.isNone then .error .version
    else if c = 'f' && takesFormat place then
      setOrAwait place s .format (if t.isEmpty then none else some (withoutEquals t))
    else .error .misuse

/-- Whether an argument is an option. -/
def isOption (arg : Text) : Bool := arg.head? == some '-' && arg.length > 1

/-- One more argument on a side; an operand is left to `operand`. -/
def feed (place : Place) (operand : Side → Except Interruption Side) (s : Side) (arg : Text) :
    Except Interruption Side :=
  match s.pending with
  | some o => if isOption arg then .error .misuse else setValue place s o arg
  | none =>
    if s.ended || !isOption arg then operand s
    else match arg.drop 1 with
      | ['-'] => .ok { s with ended := true }
      | '-' :: long =>
        let v := (long.dropWhile (· != '=')).tail?
        readLong place s (long.takeWhile (· != '=')) v
      | letters => readShort place s letters

/-- Both sides of a command line. -/
structure State where
  before : Side
  after : Option (Verb × Side)
  deriving DecidableEq, Repr

/-- Keeps an operand, of which a command has one at most. -/
def keep (arg : Text) (s : Side) : Except Interruption Side :=
  if s.operands.isEmpty then .ok { s with operands := [arg] } else .error .misuse

/-- Whether an argument before the command is taken as the name of the command. -/
def namesCommand (s : Side) (arg : Text) : Bool := s.pending.isNone && !s.ended && !isOption arg

/-- One more argument. -/
def step (s : State) (arg : Text) : Except Interruption State :=
  match s.after with
  | some (.help, side) =>
    .ok { s with after := some (.help, { side with operands := side.operands ++ [arg] }) }
  | some (verb, side) => do
    let side ← feed (some verb) (keep arg) side arg
    return { s with after := some (verb, side) }
  | none =>
    if namesCommand s.before arg then
      match verb? arg with
      | some verb => .ok { s with after := some (verb, .blank) }
      | none => .error .misuse
    else do
      let before ← feed none (fun _ => .error .misuse) s.before arg
      return { s with before }

/-- The operand that a command needs. -/
def required (s : Side) : Except Interruption Text :=
  match s.operands with
  | [operand] => .ok operand
  | _ => .error .misuse

/-- The output format of a name that was accepted. -/
def outputFormat (name : Text) : OutputFormat := if name = "json" then .json else .human

/-- The highlight format of a name that was accepted. -/
def highlightFormat (name : Text) : HighlightFormat := if name = "html" then .html else .ansi

/-- The command that has been read. -/
def command (verb : Verb) (s : Side) : Except Interruption Command :=
  match verb with
  | .run => return .run (← required s) (s.format.map outputFormat)
  | .check => return .check (← required s) (s.format.map outputFormat)
  | .tokens => return .tokens (← required s)
  | .highlight => return .highlight (← required s) ((s.format.map highlightFormat).getD .ansi)
  | .guide => .ok (.guide s.operands.head?)
  | .examples => .ok (.examples s.operands.head?)
  | .help =>
    match s.operands with
    | [] => .error .help
    | [name] => .error (if (verb? name).isSome then .help else .misuse)
    | _ => .error .misuse

/-- Reads the arguments of the command line. -/
def read (args : List Text) : Except Interruption Invocation := do
  let s ← args.foldlM step ⟨.blank, none⟩
  match s.after with
  | none => .error .misuse
  | some (verb, side) =>
    if side.pending.isSome then .error .misuse
    else return ⟨side.config.or s.before.config, ← command verb side⟩

end Arguments

end VibeScript
