import GraphSync.Cypher.Parameters
import GraphSync.Schema.Matchlink

/-!
# Parts of compiled queries

The pieces that ingestion and cleanup queries share: how a matcher finds a node, how properties are
set, and how one statement deletes at most a window of stale elements.
-/

namespace GraphSync.Plan

open Cypher

/-- The arrow of a relationship, seen from its owning node on the left. -/
def arrow : Direction → Arrow
  | .inward => .incoming
  | .outward => .outgoing

/-! ## Finding nodes -/

/-- The property that an exact field puts into the pattern of the node. -/
def patternProp : String × Reference → Option (String × Expr)
  | (field, r) =>
    match r.mode with
    | .exact => some (field, r.expr)
    | _ => none

/-- The condition that any other field puts on the node bound to `var`. -/
def fieldCondition (var : String) : String × Reference → Option Condition
  | (field, r) =>
    let actual := Expr.property var field
    match r.mode with
    | .exact => none
    | .oneToMany => some (.isIn actual r.expr)
    | .ignoreCase => some (.eq (.toLower actual) (.toLower r.expr))
    | .fuzzy => some (.contains (.toLower actual) (.toLower r.expr))

/-- The pattern of the node that an endpoint describes. -/
def endpointPattern (var : String) (e : Endpoint) : NodePattern :=
  { var := some var, labels := [e.label], props := e.matcher.filterMap patternProp }

/-- The conditions on the node that an endpoint describes, beyond its pattern. -/
def endpointConditions (var : String) (e : Endpoint) : List Condition :=
  e.matcher.filterMap (fieldCondition var)

/-! ## Setting properties -/

/-- Sets every field of an element from its reference. -/
def setFields (var : String) (fields : Fields) : List SetItem :=
  fields.map fun (key, r) => .property var key r.expr

/-- Sets the time of creation. -/
def setFirstSeen (var : String) : SetItem := .property var firstSeenKey .timestamp

/-! ## Deleting -/

/-- The condition that an element was not written by the current run. -/
def stale (var : String) : Condition :=
  .ne (.property var lastUpdatedKey) (.param updateTagParam)

/-- Keeps at most a window of what `var` is bound to, deletes it, and returns how much it was. -/
def deleteWindow (detach : Bool) (var : String) : List Clause :=
  [.withVars [var] [] (some (.param limitParam)),
   .delete detach var,
   .returning [(.countAll, deletedColumn)]]

/-! ## Parameters of a compiled query -/

/-- The parameters that the caller has to supply: all but the two that are filled in for each
call. -/
def callerParameters (q : Query) : List String :=
  q.parameters.filter fun name => name != rowsParam && name != limitParam

end GraphSync.Plan
