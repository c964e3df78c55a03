/-!
# Usage errors

The reasons for which a command line is not carried out. Asking for help or for the version is among
them: it ends the reading of the command line in the same way.
-/

namespace GraphSync.CommandLine

/-- Why a command line is not carried out. -/
inductive UsageError where
  | helpAsked
  | versionAsked
  /-- There is nothing at all. -/
  | nothingGiven
  | missingCommand
  | unknownCommand
  | unknownArgument
  /-- An option or operand has no value where one is needed, or an empty path. -/
  | missingValue
  | invalidValue
  /-- A switch has a value. -/
  | unneededValue
  /-- What may be given once is given twice. -/
  | repeatedOption
  | missingArgument
  deriving DecidableEq

/-- The wording of a usage error. -/
def UsageError.message : UsageError → String
  | helpAsked => "help was asked for"
  | versionAsked => "the version was asked for"
  | nothingGiven => "nothing was given to do"
  | missingCommand => "a command is needed"
  | unknownCommand => "there is no such command"
  | unknownArgument => "unexpected argument"
  | missingValue => "a value is needed"
  | invalidValue => "invalid value"
  | unneededValue => "unexpected value"
  | repeatedOption => "an option is given twice"
  | missingArgument => "a required argument is missing"

end GraphSync.CommandLine
