import GraphSync.Cypher.Index
import GraphSync.Schema.Matchlink

/-!
# Indexes

The indexes that back the look-ups of a schema's queries, each once, in the order in which they are
first needed.
-/

namespace GraphSync

open Cypher

/-- The node indexes for the fields of a matcher. -/
def Endpoint.indexes (e : Endpoint) : List Index :=
  e.matcher.map fun (field, _) => .node e.label field

/-- The keys that ask for an index of their own. -/
def Fields.indexedKeys (fields : Fields) : List String :=
  (fields.filter fun entry => entry.2.extraIndex).map (·.1)

/-- The relationship indexes that properties ask for. -/
def Relationship.extraIndexes (rel : Relationship) : List Index :=
  rel.properties.indexedKeys.map fun key => .relationship rel.label [key]

/-- What the queries of a node schema look up: identity, run and indexed properties of the node,
then the target and the indexed properties of each relationship. -/
def NodeSchema.lookups (s : NodeSchema) : List Index :=
  [.node s.label idKey, .node s.label lastUpdatedKey]
    ++ (s.properties.indexedKeys.map fun key => .node s.label key)
    ++ s.relationships.flatMap fun rel => rel.target.indexes ++ rel.extraIndexes

/-- What the queries of a matchlink look up: both matchers, the stale links of a sub-resource, and
the indexed properties. -/
def Matchlink.lookups (m : Matchlink) : List Index :=
  m.source.indexes ++ m.relationship.target.indexes
    ++ [.relationship m.relationship.label [lastUpdatedKey, scopeLabelKey, scopeIdKey]]
    ++ m.relationship.extraIndexes

/-- The indexes of a node schema. -/
def NodeSchema.indexes (s : NodeSchema) : List Index := s.lookups.eraseDups

/-- The indexes of a matchlink. -/
def Matchlink.indexes (m : Matchlink) : List Index := m.lookups.eraseDups

end GraphSync
