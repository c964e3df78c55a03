import GraphSync.CommandLine.Error
import GraphSync.CommandLine.Grammar
import GraphSync.CommandLine.Token
import GraphSync.Run.Assignment

/-!
# One level of a command line

A command line has two levels, before and after the name of the command, and both are read alike.
An option that takes a value, and an operand, is set aside until the next option or operand or the
end of the level, and only then checked. This decides which of two errors is found first.
-/

namespace GraphSync.CommandLine

/-! ## Values -/

/-- What a level gives a value to. -/
structure Given where
  verbose : Bool := false
  config : Option String := none
  uri : Option String := none
  user : Option String := none
  password : Option String := none
  updateTag : Option Int64 := none
  params : List Assignment := []
  cleanup : Bool := false
  schema : Option String := none
  rows : Option String := none

/-- A path, which is never empty. -/
def readPath (value : String) : Except UsageError String :=
  if value.isEmpty then .error .missingValue else .ok value

/-- A run tag. -/
def readTag (value : String) : Except UsageError Int64 :=
  (Literal.readInt64 value.toList).mapError fun _ => .invalidValue

/-- An assignment. -/
def readAssignment (value : String) : Except UsageError Assignment :=
  (Assignment.parse value).mapError fun _ => .invalidValue

/-- A value that may be given once. -/
def setOnce {α : Type} (old : Option α) (value : Except UsageError α) :
    Except UsageError (Option α) :=
  if old.isSome then .error .repeatedOption else some <$> value

/-- A switch that may be given once. -/
def switchOnce (old : Bool) : Except UsageError Bool :=
  if old then .error .repeatedOption else .ok true

namespace Given

/-- Switches something on. -/
def switch (g : Given) : Opt → Except UsageError Given
  | .help => .error .helpAsked
  | .version => .error .versionAsked
  | .verbose => return { g with verbose := ← switchOnce g.verbose }
  | .cleanup => return { g with cleanup := ← switchOnce g.cleanup }
  | _ => .error .missingValue

/-- Gives an option its value. -/
def setOption (g : Given) (o : Opt) (value : String) : Except UsageError Given :=
  match o with
  | .config => return { g with config := ← setOnce g.config (readPath value) }
  | .uri => return { g with uri := ← setOnce g.uri (.ok value) }
  | .user => return { g with user := ← setOnce g.user (.ok value) }
  | .password => return { g with password := ← setOnce g.password (.ok value) }
  | .updateTag => return { g with updateTag := ← setOnce g.updateTag (readTag value) }
  | .param => return { g with params := g.params ++ [← readAssignment value] }
  | _ => .error .unneededValue

/-- Gives an operand its value. -/
def setOperand (g : Given) (x : Operand) (value : String) : Except UsageError Given :=
  match x with
  | .schema => return { g with schema := ← setOnce g.schema (readPath value) }
  | .rows => return { g with rows := ← setOnce g.rows (readPath value) }

end Given

/-! ## Reading arguments -/

/-- What has been read and not been checked. -/
inductive Pending where
  | option (o : Opt) (value : Option String)
  | operand (x : Operand) (value : String)

/-- A level on the way: what it gives, what is set aside, and the operands that may still come. -/
structure Level where
  given : Given := {}
  pending : Option Pending := none
  operands : List Operand := []

namespace Level

/-- Checks what was set aside. -/
def resolve (l : Level) : Except UsageError Level :=
  match l.pending with
  | none => .ok l
  | some (.option _ none) => .error .missingValue
  | some (.option o (some v)) =>
    return { l with given := ← l.given.setOption o v, pending := none }
  | some (.operand x v) => return { l with given := ← l.given.setOperand x v, pending := none }

/-- Whether the next word is the value of an option. -/
def awaitsValue (l : Level) : Bool := l.pending matches some (.option _ none)

/-- Reads a switch. -/
def readSwitch (l : Level) (o : Opt) : Except UsageError Level := do
  let l ← l.resolve
  return { l with given := ← l.given.switch o }

/-- Reads an option that takes a value. A value in the same argument is checked at once. -/
def readOption (l : Level) (o : Opt) (value : Option String) : Except UsageError Level := do
  let l ← l.resolve
  match value with
  | some v => return { l with given := ← l.given.setOption o v }
  | none => return { l with pending := some (.option o none) }

/-- Reads an option by its name. -/
def readLong (options : List Opt) (l : Level) (name : String) (value : Option String) :
    Except UsageError Level :=
  match options.find? fun o => o.long == name with
  | none => .error .unknownArgument
  | some o =>
    if o.takesValue then l.readOption o value
    else if value.isSome then .error .unneededValue
    else l.readSwitch o

/-- Reads a group of letters: switches, of which the last letter may be an option with a value. -/
def readShort (options : List Opt) (l : Level) : List Char → Except UsageError Level
  | [] => .ok l
  | c :: rest =>
    match options.find? fun o => o.short? == some c with
    | none => .error .unknownArgument
    | some o =>
      if o.takesValue then l.readOption o (Token.attached? rest)
      else do readShort options (← l.readSwitch o) rest

/-- Reads an operand; `stray` is the error if no more of them may come. -/
def readOperand (stray : UsageError) (l : Level) (text : String) : Except UsageError Level :=
  match l.operands with
  | [] => .error stray
  | x :: operands => do
    let l ← l.resolve
    return { l with pending := some (.operand x text), operands }

/-- Reads a word, which is the value of an option that waits for one, or else an operand. -/
def readWord (stray : UsageError) (l : Level) (text : String) : Except UsageError Level :=
  match l.pending with
  | some (.option o none) => .ok { l with pending := some (.option o (some text)) }
  | _ => l.readOperand stray text

/-! ## The two levels -/

/-- The options after the name of a command. -/
def commandOptions (name : CommandName) : List Opt := name.options ++ Opt.everywhere

/-- Reads the arguments after the name of a command. -/
def readCommand (name : CommandName) (l : Level) : List String → Except UsageError Level
  | [] => l.resolve
  | arg :: rest =>
    match Token.ofArgument arg with
    | .terminator => do (← rest.foldlM (readOperand .unknownArgument) l).resolve
    | .long n value => do readCommand name (← l.readLong (commandOptions name) n value) rest
    | .short letters => do readCommand name (← l.readShort (commandOptions name) letters) rest
    | .word text => do readCommand name (← l.readWord .unknownArgument text) rest

/-- The answer to the word that asks for help, with what follows it. -/
def helpAnswer : List String → UsageError
  | [] => .helpAsked
  | [word] => if isCommandWord word then .helpAsked else .unknownCommand
  | _ => .unknownCommand

/-- The error for a word after two dashes where there is no command yet. -/
def strayAfterDashes (text : String) : UsageError :=
  if isCommandWord text then .unknownArgument else .unknownCommand

/-- Reads the arguments before the name of a command, and returns the name with the arguments after
it. What is still set aside at the name is checked later. -/
def readProgram (l : Level) :
    List String → Except UsageError (Level × Option (CommandName × List String))
  | [] => .ok (l, none)
  | arg :: rest =>
    let go := fun
      | .terminator =>
        match rest with
        | [] => .ok (l, none)
        | text :: _ => .error (strayAfterDashes text)
      | .long n value => do readProgram (← l.readLong Opt.everywhere n value) rest
      | .short letters => do readProgram (← l.readShort Opt.everywhere letters) rest
      | .word text => do readProgram (← l.readWord .unknownCommand text) rest
    if l.awaitsValue then go (Token.ofArgument arg)
    else if arg == helpWord then .error (helpAnswer rest)
    else
      match CommandName.ofText? arg with
      | some name => .ok (l, some (name, rest))
      | none => go (Token.ofArgument arg)

end Level

end GraphSync.CommandLine
