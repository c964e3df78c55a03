import GraphSync.Definition.Decode
import GraphSync.Toml.Reader

/-!
# Definition files

A definition file is a TOML document. Reading one fails because the text is no definition or because
the schema it describes is refused.
-/

namespace GraphSync

/-- Why a definition text gives no schema. -/
inductive DefinitionError where
  /-- The text is no TOML document, or the document has not the shape of a definition. -/
  | malformed
  | refused (e : SchemaError)
  deriving DecidableEq

/-- The definition that a TOML text holds. -/
def SchemaDefinition.parse? (text : String) : Option SchemaDefinition :=
  (Toml.parse? text).bind SchemaDefinition.ofDatum?

/-- The schema that a TOML text defines. -/
def Schema.parse (text : String) : Except DefinitionError Schema :=
  match SchemaDefinition.parse? text with
  | none => .error .malformed
  | some d => d.build.mapError .refused

end GraphSync
