import GraphSync.Schema.Error
import GraphSync.Schema.Reference

/-!
# Fields

The properties of a node or a relationship and the fields of a matcher are lists of keys with
references. Their order is kept, so that compiled queries are stable. A list may repeat a key; the
schema that owns it refuses that (`Fields.checkKeys`).
-/

namespace GraphSync

/-- Keys with the references that feed them, in the order they were declared. -/
abbrev Fields := List (String × Reference)

namespace Fields

/-- The reference of the first entry with a key. -/
def get? (fields : Fields) (key : String) : Option Reference :=
  (fields.find? fun entry => entry.1 == key).map (·.2)

/-- Whether a key occurs. -/
def has (fields : Fields) (key : String) : Bool := (fields.get? key).isSome

/-- Refuses the first key that is empty or has occurred among `seen` or before it in the list. -/
def checkKeysAfter (owner : Owner) (seen : List String) : Fields → Except SchemaError Unit
  | [] => .ok ()
  | (key, _) :: rest =>
    if key.isEmpty then .error (.emptyName .property)
    else if key ∈ seen then .error (.duplicateProperty owner key)
    else checkKeysAfter owner (key :: seen) rest

/-- Refuses the first key that is empty or repeats an earlier one. -/
def checkKeys (fields : Fields) (owner : Owner) : Except SchemaError Unit :=
  checkKeysAfter owner [] fields

/-- Refuses an absent key. -/
def require (fields : Fields) (owner : Owner) (key : String) : Except SchemaError Unit :=
  if fields.has key then .ok () else .error (.missingProperty owner key)

/-- Refuses a key that is absent or is not fed by a run parameter. -/
def requireParameter (fields : Fields) (owner : Owner) (key : String) : Except SchemaError Unit :=
  match fields.get? key with
  | none => .error (.missingProperty owner key)
  | some r => if r.isParameter then .ok () else .error (.propertyNotParameter owner key)

/-- Refuses a matcher that is empty, which every node of the label would meet, or whose keys are not
in order. -/
def checkMatcher (fields : Fields) (owner : Owner) : Except SchemaError Unit :=
  if fields.isEmpty then .error (.emptyMatcher owner) else fields.checkKeys owner

end Fields

end GraphSync
