import GraphSync.Schema.Matchlink

/-!
# Definitions

A definition describes a schema in the words of a definition file: entries with flags in place of
references. `SchemaDefinition.build` turns it into a checked schema.
-/

namespace GraphSync

/-! ## Entries -/

/-- One property or matcher field. -/
structure Entry where
  /-- The property or the matcher field. -/
  name : String
  /-- The row field or parameter to read; the name itself if there is none. -/
  source : Option String := none
  /-- Whether the value is a run parameter. -/
  fromParameter : Bool := false
  extraIndex : Bool := false
  ignoreCase : Bool := false
  fuzzyAndIgnoreCase : Bool := false
  oneToMany : Bool := false
  deriving DecidableEq

/-- The match flags that an entry sets. -/
def Entry.matchFlags (e : Entry) : List MatchFlag :=
  (if e.ignoreCase then [.ignoreCase] else [])
    ++ (if e.fuzzyAndIgnoreCase then [.fuzzyAndIgnoreCase] else [])
    ++ (if e.oneToMany then [.oneToMany] else [])

/-- The mode that a flag chooses. -/
def MatchFlag.mode : MatchFlag → MatchMode
  | .ignoreCase => .ignoreCase
  | .fuzzyAndIgnoreCase => .fuzzy
  | .oneToMany => .oneToMany

/-- The reference an entry describes. Two match flags contradict each other. -/
def Entry.toReference (e : Entry) : Except SchemaError Reference :=
  let origin := if e.fromParameter then Origin.parameter else Origin.row
  let reference (mode : MatchMode) : Reference :=
    { name := e.source.getD e.name, origin, mode, extraIndex := e.extraIndex }
  match e.matchFlags with
  | [] => .ok (reference .exact)
  | [flag] => .ok (reference flag.mode)
  | first :: second :: _ => .error (.conflictingMatchFlags e.name first second)

/-- The fields that entries describe, in their order. -/
def fieldsOfEntries (entries : List Entry) : Except SchemaError Fields :=
  entries.mapM fun e => e.toReference.map fun r => (e.name, r)

/-! ## Definitions -/

/-- The definition of a relationship or of a matchlink. -/
structure RelationshipDefinition where
  label : String
  direction : Direction
  target : String
  matcher : List Entry
  properties : List Entry := []
  source : Option String := none
  sourceMatcher : List Entry := []
  deriving DecidableEq

/-- The definition of a node schema. -/
structure NodeDefinition where
  label : String
  extraLabels : List String := []
  properties : List Entry
  subResource : Option RelationshipDefinition := none
  otherRelationships : List RelationshipDefinition := []
  scopedCleanup : Bool := true
  deriving DecidableEq

/-- A definition of either kind. -/
inductive SchemaDefinition where
  | node (definition : NodeDefinition)
  | matchlink (definition : RelationshipDefinition)
  deriving DecidableEq

/-! ## Building -/

namespace RelationshipDefinition

/-- The draft of a relationship, without a source. -/
def draft (d : RelationshipDefinition) : Except SchemaError Relationship.Draft := do
  let matcher ← fieldsOfEntries d.matcher
  let properties ← fieldsOfEntries d.properties
  return { label := d.label, direction := d.direction,
           target := some { label := d.target, matcher }, properties }

/-- The relationship of a node schema; it must not name a source. -/
def build (d : RelationshipDefinition) : Except SchemaError Relationship :=
  if d.source.isSome || !d.sourceMatcher.isEmpty then .error (.unexpectedSource d.label)
  else do (← d.draft).build

/-- The source of a matchlink. A source matcher without a source is not looked at. -/
def sourceEndpoint (d : RelationshipDefinition) : Except SchemaError (Option Endpoint) :=
  match d.source with
  | none => .ok none
  | some label => do return some { label, matcher := ← fieldsOfEntries d.sourceMatcher }

/-- The matchlink of a definition. -/
def buildMatchlink (d : RelationshipDefinition) : Except SchemaError Matchlink := do
  let draft ← d.draft
  let source ← d.sourceEndpoint
  Matchlink.ofRelationship (← { draft with source }.build)

end RelationshipDefinition

/-- The relationship to the sub-resource, if the definition has one. -/
def NodeDefinition.buildSubResource (d : NodeDefinition) :
    Except SchemaError (Option Relationship) :=
  match d.subResource with
  | none => .ok none
  | some sub => do return some (← sub.build)

/-- The node schema of a definition: the properties are read first, then the relationships in turn,
and the whole is checked last. -/
def NodeDefinition.build (d : NodeDefinition) : Except SchemaError NodeSchema := do
  let properties ← fieldsOfEntries d.properties
  let subResource ← d.buildSubResource
  let others ← d.otherRelationships.mapM RelationshipDefinition.build
  let draft : NodeSchema.Draft :=
    { label := d.label, properties, extraLabels := d.extraLabels, subResource, others,
      scopedCleanup := d.scopedCleanup }
  draft.build

/-- The schema of a definition. -/
def SchemaDefinition.build : SchemaDefinition → Except SchemaError Schema
  | node d => do return .node (← d.build)
  | matchlink d => do return .matchlink (← d.buildMatchlink)

end GraphSync
