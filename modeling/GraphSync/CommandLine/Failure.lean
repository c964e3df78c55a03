import GraphSync.Files.Error
import GraphSync.Schema.Error

/-!
# Failures

The reasons for which a command fails. Each of them says what was being done, and most have a cause
with a wording of its own.
-/

namespace GraphSync.CommandLine

/-- Why a command fails. -/
inductive Failure where
  | settingsUnreadable (path : String) (e : FileError)
  /-- The settings file is no TOML document, or it has not the shape of settings. -/
  | settingsMalformed (path : String)
  | schemaUnreadable (path : String) (e : FileError)
  /-- The definition file is no TOML document, or it has not the shape of a definition. -/
  | schemaMalformed (path : String)
  | schemaRefused (path : String) (e : SchemaError)
  | rowsUnreadable (path : String) (e : FileError)
  /-- The rows file is no JSON text, or the value in it is no array. -/
  | rowsMalformed (path : String)
  /-- The address of the database has the scheme of something else. -/
  | foreignScheme (uri scheme : String)
  /-- No database answers. -/
  | unreachable (uri : String)
  deriving DecidableEq

namespace Failure

/-- What was being done. -/
def context : Failure → String
  | settingsUnreadable path _ | settingsMalformed path => "Failed to read config " ++ path
  | schemaUnreadable path _ | schemaMalformed path | schemaRefused path _ =>
    "Invalid schema definition " ++ path
  | rowsUnreadable path _ => "Failed to read " ++ path
  | rowsMalformed path => path ++ " is not a JSON array of rows"
  | foreignScheme uri _ | unreachable uri => "Failed to connect to Neo4j at " ++ uri

/-- The wording of the cause, where it is fixed. -/
def cause? : Failure → Option String
  | settingsUnreadable _ e | schemaUnreadable _ e => some ("IO error: " ++ e.message)
  | rowsUnreadable _ e => some e.message
  | schemaRefused _ e => some e.message
  | foreignScheme _ scheme => some ("Neo4j error: Unsupported URI scheme: " ++ scheme)
  | settingsMalformed _ | schemaMalformed _ | rowsMalformed _ | unreachable _ => none

end Failure

end GraphSync.CommandLine
