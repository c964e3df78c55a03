import GraphSync.Datum
import GraphSync.Definition.Basic

/-!
# Decoding definitions

The shape of definitions as data. Unknown fields of a record are ignored. A list stands for a record
when it holds the fields in their order; only fields with a default may then be left out at its end.
-/

namespace GraphSync

open Datum

/-! ## Entries -/

/-- The fields of an entry, in order. -/
def Entry.fieldNames : List String :=
  ["name", "ref", "set_in_kwargs", "extra_index", "ignore_case", "fuzzy_and_ignore_case",
   "one_to_many"]

/-- The entry of a datum. -/
def Entry.ofDatum? (d : Datum) : Option Entry := do
  let s ← Slots.ofDatum? Entry.fieldNames d
  let name ← s.required "name" text?
  let source ← s.optional "ref" text?
  let fromParameter ← s.orElse "set_in_kwargs" false bool?
  let extraIndex ← s.orElse "extra_index" false bool?
  let ignoreCase ← s.orElse "ignore_case" false bool?
  let fuzzyAndIgnoreCase ← s.orElse "fuzzy_and_ignore_case" false bool?
  let oneToMany ← s.orElse "one_to_many" false bool?
  return { name, source, fromParameter, extraIndex, ignoreCase, fuzzyAndIgnoreCase, oneToMany }

/-! ## Definitions -/

/-- The direction of a name. -/
def Direction.ofName? (name : String) : Option Direction :=
  if name = "inward" then some .inward
  else if name = "outward" then some .outward
  else none

/-- The direction of a datum: its name, or a record with the name as its only key and nothing under
it. -/
def Direction.ofDatum? : Datum → Option Direction
  | .text name => Direction.ofName? name
  | .record [(name, .null)] => Direction.ofName? name
  | .record [(name, .record [])] => Direction.ofName? name
  | _ => none

/-- The fields of a relationship definition, in order. -/
def RelationshipDefinition.fieldNames : List String :=
  ["label", "direction", "target", "matcher", "properties", "source", "source_matcher"]

/-- The relationship definition of a datum. -/
def RelationshipDefinition.ofDatum? (d : Datum) : Option RelationshipDefinition := do
  let s ← Slots.ofDatum? RelationshipDefinition.fieldNames d
  let label ← s.required "label" text?
  let direction ← s.required "direction" Direction.ofDatum?
  let target ← s.required "target" text?
  let matcher ← s.required "matcher" (list? Entry.ofDatum?)
  let properties ← s.orElse "properties" [] (list? Entry.ofDatum?)
  let source ← s.optional "source" text?
  let sourceMatcher ← s.orElse "source_matcher" [] (list? Entry.ofDatum?)
  return { label, direction, target, matcher, properties, source, sourceMatcher }

/-- The fields of a node definition, in order. -/
def NodeDefinition.fieldNames : List String :=
  ["label", "extra_labels", "properties", "sub_resource", "other_relationships", "scoped_cleanup"]

/-- The node definition of a datum. -/
def NodeDefinition.ofDatum? (d : Datum) : Option NodeDefinition := do
  let s ← Slots.ofDatum? NodeDefinition.fieldNames d
  let label ← s.required "label" text?
  let extraLabels ← s.orElse "extra_labels" [] (list? text?)
  let properties ← s.required "properties" (list? Entry.ofDatum?)
  let subResource ← s.optional "sub_resource" RelationshipDefinition.ofDatum?
  let otherRelationships ←
    s.orElse "other_relationships" [] (list? RelationshipDefinition.ofDatum?)
  let scopedCleanup ← s.orElse "scoped_cleanup" true bool?
  return { label, extraLabels, properties, subResource, otherRelationships, scopedCleanup }

/-- The definition of a kind whose other fields are the datum. -/
def SchemaDefinition.ofKind? (kind : String) (d : Datum) : Option SchemaDefinition :=
  if kind = "node" then (NodeDefinition.ofDatum? d).map .node
  else if kind = "matchlink" then (RelationshipDefinition.ofDatum? d).map .matchlink
  else none

/-- The definition of a datum. Its kind is a field of the record or the first item of the list. -/
def SchemaDefinition.ofDatum? : Datum → Option SchemaDefinition
  | .record fields =>
    match Entries.find? "kind" fields with
    | some (.text kind) => SchemaDefinition.ofKind? kind (.record fields)
    | _ => none
  | .list (.text kind :: rest) => SchemaDefinition.ofKind? kind (.list rest)
  | _ => none

end GraphSync
