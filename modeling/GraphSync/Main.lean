import GraphSync.CommandLine.Execution

/-!
# The program

Reads the command line, the environment and the files that they name, and prints what carrying them
out returns.
-/

namespace GraphSync.CommandLine

/-- The reason of the system for a file that cannot be read. Its number may come with a minus
sign. -/
def fileError : IO.Error → FileError
  | .noFileOrDirectory _ number details | .permissionDenied _ number details
  | .inappropriateType _ number details | .invalidArgument _ number details
  | .resourceExhausted _ number details => .ofNumber number.toInt32.toInt.natAbs details
  | e => .system 0 (toString e)

/-- Reads a file as text. -/
def readFile (path : String) : IO (Except FileError String) := do
  if path.contains '\x00' then return .error .nullInPath
  try
    return match String.fromUTF8? (← IO.FS.readBinFile path) with
      | some text => .ok text
      | none => .error .notText
  catch e => return .error (fileError e)

/-- The environment, as far as options look into it. -/
def environment : IO Environment := do
  let values ← (Opt.everywhere.filterMap Opt.variable?).mapM fun name =>
    return (name, ← IO.getEnv name)
  return fun name => (values.lookup name).join

/-- Reads the files of an invocation. -/
def Invocation.readFiles (i : Invocation) : IO ReadFile := do
  let texts ← i.paths.mapM fun path => return (path, ← readFile path)
  return fun path => (texts.lookup path).getD (.error .notFound)

/-- The version of the program. -/
def version : String := "0.1.0"

/-- The commands, each with its operands. -/
def synopsis : String :=
  let operand : Operand → String
    | .schema => "SCHEMA"
    | .rows => "ROWS"
  "\n".intercalate (CommandName.all.map fun name =>
    " ".intercalate (name.text :: name.operands.map operand))

/-- Prints what is asked for, or why a command line is not carried out. -/
def reportUsage (e : UsageError) : IO UInt32 := do
  match e with
  | .helpAsked => IO.println synopsis; return 0
  | .versionAsked => IO.println version; return 0
  | _ => IO.eprintln ("error: " ++ e.message); return 2

/-- Prints why a command fails. -/
def reportFailure (f : Failure) : IO UInt32 := do
  IO.eprintln ("Error: " ++ f.context)
  if let some cause := f.cause? then
    IO.eprintln ("\nCaused by:\n    " ++ cause)
  return 1

end GraphSync.CommandLine

open GraphSync CommandLine in
/-- Runs the program. Colors are on if the output is a terminal and nothing asks for none. -/
def main (args : List String) : IO UInt32 := do
  match Invocation.parse (← environment) args with
  | .error e => reportUsage e
  | .ok i =>
    match i.execute (← i.readFiles) with
    | .error f => reportFailure f
    | .ok lines =>
      let output ← IO.getStdout
      let colors := (← output.isTty) && (← IO.getEnv "NO_COLOR").isNone
      output.putStr (Line.renderAll colors lines)
      return 0
