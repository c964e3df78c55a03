import GraphSync.Address
import GraphSync.CommandLine.Failure
import GraphSync.CommandLine.Invocation
import GraphSync.Definition.Load
import GraphSync.Report.Plan
import GraphSync.Settings

/-!
# Carrying out an invocation

An invocation reads its settings, then the files of its command, and then prints or connects to the
database; the first of these that goes wrong is the failure. There is no connection to a database
here, so a command that needs one fails when it comes to connecting.
-/

namespace GraphSync.CommandLine

/-- The text of a file, or why it has none. -/
abbrev ReadFile := String → Except FileError String

/-! ## Reading files -/

/-- The settings in a file. -/
def readSettings (read : ReadFile) (path : String) : Except Failure Settings := do
  let text ← (read path).mapError (.settingsUnreadable path)
  match Settings.parse? text with
  | some s => return s
  | none => throw (.settingsMalformed path)

/-- The schema in a definition file. -/
def readSchema (read : ReadFile) (path : String) : Except Failure Schema := do
  let text ← (read path).mapError (.schemaUnreadable path)
  (Schema.parse text).mapError fun
    | .malformed => .schemaMalformed path
    | .refused e => .schemaRefused path e

/-- The rows in a file. -/
def readRows (read : ReadFile) (path : String) : Except Failure (List Json) := do
  let text ← (read path).mapError (.rowsUnreadable path)
  match Json.parse? text with
  | some (.array rows) => return rows
  | _ => throw (.rowsMalformed path)

/-! ## Settings and connection -/

/-- A connection with the values that an invocation has for it. -/
def Invocation.override (i : Invocation) (c : Connection) : Connection :=
  { c with uri := i.uri.getD c.uri, user := i.user.getD c.user,
           password := i.password.getD c.password }

/-- The settings of an invocation: those of its file, if it names one, with its own values. -/
def Invocation.settings (i : Invocation) (read : ReadFile) : Except Failure Settings := do
  let s ← match i.config with
    | some path => readSettings read path
    | none => .ok {}
  return { s with graph := i.override s.graph }

/-- Why the database at an address is not reached. -/
def connectFailure (c : Connection) : Failure :=
  match Address.foreignScheme? c.uri with
  | some scheme => .foreignScheme c.uri scheme
  | none => .unreachable c.uri

/-! ## Commands -/

/-- Carries out a command and returns the lines it prints. -/
def Command.execute (read : ReadFile) (s : Settings) : Command → Except Failure (List Line)
  | .compile schema => do return (← readSchema read schema).report
  | .indexes schema => do
    let _ ← readSchema read schema
    throw (connectFailure s.graph)
  | .load r => do
    let _ ← readSchema read r.schema
    let _ ← readRows read r.rows
    throw (connectFailure s.graph)
  | .cleanup r => do
    let _ ← readSchema read r.schema
    throw (connectFailure s.graph)
  | .status => .error (connectFailure s.graph)

/-- Carries out an invocation and returns the lines it prints. -/
def Invocation.execute (i : Invocation) (read : ReadFile) : Except Failure (List Line) := do
  let s ← i.settings read
  i.command.execute read s

/-! ## Files -/

/-- The files that a command reads. -/
def Command.paths : Command → List String
  | .compile schema | .indexes schema => [schema]
  | .load r => [r.schema, r.rows]
  | .cleanup r => [r.schema]
  | .status => []

/-- The files that an invocation reads. -/
def Invocation.paths (i : Invocation) : List String := i.config.toList ++ i.command.paths

end GraphSync.CommandLine
