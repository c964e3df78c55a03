/-!
# What a command line may hold

A command line names one command. Options that belong to the whole program may stand before the name
or after it; the others stand after it, among the operands of the command.
-/

namespace GraphSync.CommandLine

/-! ## Options -/

/-- An option. -/
inductive Opt where
  | verbose
  | config
  | uri
  | user
  | password
  | updateTag
  | param
  | cleanup
  | help
  | version
  deriving DecidableEq

namespace Opt

/-- The name of an option after two dashes. -/
def long : Opt → String
  | verbose => "verbose"
  | config => "config"
  | uri => "uri"
  | user => "user"
  | password => "password"
  | updateTag => "update-tag"
  | param => "param"
  | cleanup => "cleanup"
  | help => "help"
  | version => "version"

/-- The letter of an option after one dash. -/
def short? : Opt → Option Char
  | verbose => some 'v'
  | config => some 'c'
  | help => some 'h'
  | version => some 'V'
  | _ => none

/-- Whether an option has a value. The others are switches. -/
def takesValue : Opt → Bool
  | config | uri | user | password | updateTag | param => true
  | verbose | cleanup | help | version => false

/-- The options that belong to the whole program. -/
def everywhere : List Opt := [verbose, config, uri, user, password, help, version]

end Opt

/-! ## Commands -/

/-- An argument that is known by its place. -/
inductive Operand where
  | schema
  | rows
  deriving DecidableEq

/-- What the program can be told to do. -/
inductive CommandName where
  | compile
  | indexes
  | load
  | cleanup
  | status
  deriving DecidableEq

namespace CommandName

/-- All commands. -/
def all : List CommandName := [compile, indexes, load, cleanup, status]

/-- The word for a command. -/
def text : CommandName → String
  | compile => "compile"
  | indexes => "indexes"
  | load => "load"
  | cleanup => "cleanup"
  | status => "status"

/-- The command that a word names. -/
def ofText? (word : String) : Option CommandName := all.find? fun name => name.text == word

/-- The options of a command besides those of the whole program. -/
def options : CommandName → List Opt
  | load => [.updateTag, .param, .cleanup]
  | cleanup => [.updateTag, .param]
  | compile | indexes | status => []

/-- The operands of a command, in order. -/
def operands : CommandName → List Operand
  | load => [.schema, .rows]
  | compile | indexes | cleanup => [.schema]
  | status => []

end CommandName

/-- The word that asks for help in place of a command. -/
def helpWord : String := "help"

/-- Whether a word can stand where a command is expected. -/
def isCommandWord (word : String) : Bool := word == helpWord || (CommandName.ofText? word).isSome

/-! ## Environment -/

/-- The values of environment variables. -/
abbrev Environment := String → Option String

/-- The variable that stands in for an option that is not given. -/
def Opt.variable? : Opt → Option String
  | config => some "INVGRAPH_CONFIG"
  | uri => some "NEO4J_URI"
  | user => some "NEO4J_USER"
  | password => some "NEO4J_PASSWORD"
  | _ => none

/-- The value that the environment has for an option. -/
def Environment.value? (env : Environment) (o : Opt) : Option String := o.variable?.bind env

end GraphSync.CommandLine
