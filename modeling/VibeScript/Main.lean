import VibeScript.CommandLine

/-!
The program: hands its arguments, the files that they name and the wish for colour to the command
line, and prints the answer.
-/

namespace VibeScript

/-- The text of the file under a path. -/
def readFile (path : Text) : IO (Except ReadFault Text) := do
  try
    return (FolderEntry.ofBytes (← IO.FS.readBinFile (String.ofList path))).text
  catch
    | .inappropriateType _ 21 _ => return .error .isFolder
    | .inappropriateType .. => return .error .notFolder
    | .invalidArgument .. => return .error .tooLong
    | _ => return .error .missing

/-- A variable of the environment. -/
def environment (name : String) : IO (Option Text) := do
  return (← IO.getEnv name).map String.toList

end VibeScript

open VibeScript

/-- Answers the command line. -/
def main (args : List String) : IO UInt32 := do
  let args := args.map String.toList
  let contents ← (CommandLine.paths args).mapM fun path => do return (path, ← readFile path)
  let files (path : Text) :=
    ((contents.find? fun c => c.1 == path).map Prod.snd).getD (.error .missing)
  let coloured := Terminal.wantsColour (← environment "CLICOLOR_FORCE") (← environment "NO_COLOR")
    (← environment "CLICOLOR") (← (← IO.getStdout).isTty)
  let answer := CommandLine.answer files coloured args
  (← IO.getStdout).putStr (String.ofList answer.stdout)
  (← IO.getStderr).putStr (String.ofList answer.stderr)
  return answer.exit.toUInt32
