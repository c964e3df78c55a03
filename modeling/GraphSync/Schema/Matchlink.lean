import GraphSync.Schema.Node

/-!
# Matchlink schemas

A matchlink draws relationships between nodes that exist already. Each link carries two scope
markers, which name the sub-resource that reported it, and cleanup deletes only links with the
markers of one sub-resource.
-/

namespace GraphSync

/-- A relationship schema with a source and scope markers. -/
structure Matchlink where
  relationship : Relationship
  source : Endpoint
  deriving DecidableEq

/-- Refuses a scope marker that does not read the parameter of its own name, against which cleanup
compares it. -/
def Relationship.checkMarker (rel : Relationship) (marker : String) : Except SchemaError Unit :=
  if (rel.properties.get? marker).map Reference.name = some marker then .ok ()
  else .error (.scopeMarkerBinding (.relationship rel.label) marker)

/-- The source of a relationship, if it has one. -/
def Relationship.requireSource (rel : Relationship) : Except SchemaError Endpoint :=
  match rel.source with
  | none => .error (.missingSource rel.label)
  | some source => .ok source

/-- The matchlink of a relationship with a source whose run and scope markers are run parameters. -/
def Matchlink.ofRelationship (rel : Relationship) : Except SchemaError Matchlink := do
  let source ← rel.requireSource
  let owner := Owner.relationship rel.label
  rel.properties.requireParameter owner lastUpdatedKey
  rel.properties.requireParameter owner scopeLabelKey
  rel.properties.requireParameter owner scopeIdKey
  rel.checkMarker scopeLabelKey
  rel.checkMarker scopeIdKey
  return { relationship := rel, source }

/-- A schema of either kind. -/
inductive Schema where
  | node (schema : NodeSchema)
  | matchlink (link : Matchlink)
  deriving DecidableEq

/-- The label under which a schema is reported. -/
def Schema.label : Schema → String
  | node schema => schema.label
  | matchlink link => link.relationship.label

end GraphSync
