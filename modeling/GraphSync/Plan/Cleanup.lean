import GraphSync.Plan.Parts

/-!
# Cleanup queries

A cleanup query deletes at most one window of elements that the current run has not written, and
returns how many it deleted. The queries of a schema are listed in the order in which they run.

* With a sub-resource: stale nodes of the owner, then stale links to the owner, then the other
  relationships of the owner's nodes.
* Without one, and scoped: the other relationships only.
* Unscoped: stale nodes of the label, then the other relationships.
-/

namespace GraphSync

open Cypher Plan

namespace NodeSchema

/-- The nodes of the schema, each with the owner it belongs to. -/
def ownedPath (s : NodeSchema) (sub : Relationship) (relVar : Option String) : Path where
  start := { var := some "n", labels := [s.label] }
  hops := [({ var := relVar, type := sub.label, arrow := arrow sub.direction },
            endpointPattern "owner" sub.target)]

/-- Deletes stale nodes that belong to the owner. -/
def cleanupOwnedNodes (s : NodeSchema) (sub : Relationship) : Query :=
  .matching false (s.ownedPath sub none) (stale "n" :: endpointConditions "owner" sub.target)
    :: deleteWindow true "n"

/-- Deletes stale links to the owner. -/
def cleanupOwnerLinks (s : NodeSchema) (sub : Relationship) : Query :=
  .matching false (s.ownedPath sub (some "s")) (stale "s" :: endpointConditions "owner" sub.target)
    :: deleteWindow false "s"

/-- Deletes stale nodes of the label. -/
def cleanupAllNodes (s : NodeSchema) : Query :=
  .matching false { start := { var := some "n", labels := [s.label] } } [stale "n"]
    :: deleteWindow true "n"

/-- A relationship from the node pattern `left` to the label of its target. -/
def linkPath (left : NodePattern) (rel : Relationship) : Path where
  start := left
  hops := [({ var := some "r", type := rel.label, arrow := arrow rel.direction },
            { labels := [rel.target.label] })]

/-- Deletes stale relationships of the owner's nodes. -/
def cleanupOwnedLinks (s : NodeSchema) (sub rel : Relationship) : Query :=
  .matching false (s.ownedPath sub none) (endpointConditions "owner" sub.target)
    :: .matching false (linkPath { var := some "n" } rel) [stale "r"]
    :: deleteWindow false "r"

/-- Deletes stale relationships of all nodes of the label. -/
def cleanupAllLinks (s : NodeSchema) (rel : Relationship) : Query :=
  .matching false (linkPath { var := some "n", labels := [s.label] } rel) [stale "r"]
    :: deleteWindow false "r"

/-- The cleanup queries of a node schema, in the order in which they run. -/
def cleanup (s : NodeSchema) : List Query :=
  match s.scope with
  | .subResource sub =>
    s.cleanupOwnedNodes sub :: s.cleanupOwnerLinks sub :: s.others.map (s.cleanupOwnedLinks sub)
  | .relationshipsOnly => s.others.map s.cleanupAllLinks
  | .unscoped => s.cleanupAllNodes :: s.others.map s.cleanupAllLinks

end NodeSchema

/-- The cleanup query of a matchlink: stale links with the markers of one sub-resource. -/
def Matchlink.cleanup (m : Matchlink) : Query :=
  .matching false
      { start := { labels := [m.source.label] }
        hops := [({ var := some "r", type := m.relationship.label,
                    arrow := arrow m.relationship.direction },
                  { labels := [m.relationship.target.label] })] }
      [stale "r",
       .eq (.property "r" scopeLabelKey) (.param scopeLabelKey),
       .eq (.property "r" scopeIdKey) (.param scopeIdKey)]
    :: deleteWindow false "r"

end GraphSync
