import SqlScript.CommandLine.Answer
import Std.Time.Format

/-!
The program: it reads a script from the standard input, and prints its statements with their types.
-/

set_option autoImplicit false

namespace SqlScript.CommandLine

partial def readAll (input : IO.FS.Stream) (before : String) : IO String := do
  let line ← input.getLine
  if line.isEmpty then pure before else readAll input (before ++ line)

def timeText : IO String := do
  let now ← Std.Time.PlainDateTime.now
  pure (now.format "uuuu-MM-dd HH:mm:ss,SSS")

def usage : String :=
  "Usage: sqlident [--log-level LEVEL] [--log-format STYLE] [--correlation-id ID] identify\n" ++
    "  [--dialect NAME] [--strict | --no-strict] [--format FORMAT] [--trace] [-]"

def Answer.print (a : Answer) : IO UInt32 := do
  match a with
  | .usageError =>
    (← IO.getStderr).putStrLn usage
    pure 2
  | .done exit stdout console log =>
    (← IO.getStderr).putStr (String.ofList log)
    let out ← IO.getStdout
    for shown in console do
      out.putStrLn (String.ofList shown)
    out.putStr (String.ofList stdout)
    pure exit.toUInt32

end SqlScript.CommandLine

/-- Only the standard input can be read, whether it is named by a dash or not at all. -/
def main (args : List String) : IO UInt32 := do
  let argv := args.map String.toList
  let time ← SqlScript.CommandLine.timeText
  match SqlScript.CommandLine.Invocation.ofArguments? argv with
  | none => SqlScript.CommandLine.Answer.usageError.print
  | some v =>
    if v.script = ['-'] then
      let script ← SqlScript.CommandLine.readAll (← IO.getStdin) ""
      (v.answer SqlScript.CommandLine.Console.terminal time.toList script.toList).print
    else SqlScript.CommandLine.Answer.usageError.print
