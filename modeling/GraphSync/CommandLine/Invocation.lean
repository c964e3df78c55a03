import GraphSync.CommandLine.Level

/-!
# Invocations

What a command line with its environment asks for: a command, how to reach the database, and whether
to say more.
-/

namespace GraphSync.CommandLine

/-- A load from files. -/
structure LoadRequest where
  schema : String
  rows : String
  updateTag : Int64
  params : List Assignment
  /-- Clean up after loading. -/
  cleanup : Bool

/-- A cleanup. -/
structure CleanupRequest where
  schema : String
  updateTag : Int64
  params : List Assignment

/-- A command with its arguments. -/
inductive Command where
  /-- Shows what a schema compiles to. -/
  | compile (schema : String)
  /-- Creates the indexes of a schema. -/
  | indexes (schema : String)
  | load (r : LoadRequest)
  | cleanup (r : CleanupRequest)
  /-- Counts what the graph holds. -/
  | status

/-- The name of a command. -/
def Command.name : Command → CommandName
  | compile _ => .compile
  | indexes _ => .indexes
  | load _ => .load
  | cleanup _ => .cleanup
  | status => .status

/-- All that a command line asks for. -/
structure Invocation where
  verbose : Bool
  /-- The settings file. -/
  config : Option String
  uri : Option String
  user : Option String
  password : Option String
  command : Command

/-! ## Completing a level -/

/-- A value that has to be there. -/
def require {α : Type} : Option α → Except UsageError α
  | some a => .ok a
  | none => .error .missingArgument

/-- The command that a name and the values after it make. -/
def Command.ofGiven (g : Given) : CommandName → Except UsageError Command
  | .compile => return .compile (← require g.schema)
  | .indexes => return .indexes (← require g.schema)
  | .load =>
    return .load { schema := ← require g.schema, rows := ← require g.rows,
                   updateTag := ← require g.updateTag, params := g.params, cleanup := g.cleanup }
  | .cleanup =>
    return .cleanup { schema := ← require g.schema, updateTag := ← require g.updateTag,
                      params := g.params }
  | .status => return .status

/-- Checks the variable that stands in for a settings file on a level that names none: it is a path
like any other. -/
def Given.checkVariable (g : Given) (env : Environment) : Except UsageError Unit :=
  match g.config, env.value? .config with
  | none, some path => do let _ ← readPath path
  | _, _ => .ok ()

/-- Whether neither a command line without a command nor the environment gives anything. -/
def Given.isNothing (g : Given) (env : Environment) : Bool :=
  !g.verbose && [(g.config, .config), (g.uri, .uri), (g.user, .user), (g.password, .password)].all
    fun (value, o) => value.isNone && (env.value? o).isNone

/-! ## Reading a command line -/

/-- The invocation of a command. For each value the level of the command comes first, then the level
before it, then the environment. -/
def Invocation.merge (program command : Given) (env : Environment) (c : Command) : Invocation where
  verbose := command.verbose || program.verbose
  config := (command.config <|> program.config) <|> env.value? .config
  uri := (command.uri <|> program.uri) <|> env.value? .uri
  user := (command.user <|> program.user) <|> env.value? .user
  password := (command.password <|> program.password) <|> env.value? .password
  command := c

/-- Reads a command line. The level of the command is read and checked to its end before what is
left of the level before it. -/
def Invocation.parse (env : Environment) (args : List String) : Except UsageError Invocation := do
  let (program, next) ← Level.readProgram {} args
  match next with
  | none =>
    let program := (← program.resolve).given
    program.checkVariable env
    throw (if program.isNothing env then .nothingGiven else .missingCommand)
  | some (name, rest) =>
    let given := (← Level.readCommand name { operands := name.operands } rest).given
    given.checkVariable env
    let command ← Command.ofGiven given name
    let program := (← program.resolve).given
    program.checkVariable env
    return .merge program given env command

end GraphSync.CommandLine
