import GraphSync.Plan.Parts

/-!
# Ingestion queries

An ingestion query writes a batch of rows. For a node schema each row merges a node by its identity
and attaches every relationship whose target exists; the relationships are branches of one `CALL`,
so that a missing target of one never holds up the others. For a matchlink each row merges a
relationship between two nodes that exist already.
-/

namespace GraphSync

open Cypher Plan

/-- Binds each row of the batch in turn. -/
def Plan.unwindRows : Clause := .unwind (.param rowsParam) rowAlias

/-- Merges a relationship, bound to `r`, between the nodes bound to `left` and `right`, and records
when it was created. -/
def Plan.mergeLink (left : String) (rel : Relationship) (right : String) : Clause :=
  .merge
    { start := { var := some left }
      hops := [({ var := some "r", type := rel.label, arrow := arrow rel.direction },
                { var := some right })] }
    [setFirstSeen "r"]

namespace NodeSchema

/-- The identity of a node, as a property of the merged pattern. -/
def identity (s : NodeSchema) : List (String × Expr) :=
  (s.properties.get? idKey).toList.map fun r => (idKey, r.expr)

/-- Attaches one relationship to each node that its target matcher finds. -/
def attach (rel : Relationship) : List Clause :=
  [.withVars ["i", rowAlias] [] none,
   .matching true { start := endpointPattern "j" rel.target } (endpointConditions "j" rel.target),
   .withVars ["i", rowAlias, "j"] [.isNotNull (.var "j")] none,
   mergeLink "i" rel "j",
   .set (setFields "r" rel.properties)]

/-- The query that writes a batch of rows of a node schema. -/
def ingestion (s : NodeSchema) : Query :=
  [unwindRows,
   .merge { start := { var := some "i", labels := [s.label], props := s.identity } }
     [setFirstSeen "i"],
   .set (setFields "i" (s.properties.filter fun entry => entry.1 != idKey))]
  ++ (if s.extraLabels.isEmpty then [] else [.set [.labels "i" s.extraLabels]])
  ++ (if s.relationships.isEmpty then []
      else [.withVars ["i", rowAlias] [] none, .call (s.relationships.map attach)])

end NodeSchema

/-- The query that writes a batch of rows of a matchlink. A row whose source or target is missing
writes nothing. -/
def Matchlink.ingestion (m : Matchlink) : Query :=
  [unwindRows,
   .matching false { start := endpointPattern "src" m.source } (endpointConditions "src" m.source),
   .matching false { start := endpointPattern "tgt" m.relationship.target }
     (endpointConditions "tgt" m.relationship.target),
   mergeLink "src" m.relationship "tgt",
   .set (setFields "r" m.relationship.properties)]

end GraphSync
