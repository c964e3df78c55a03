import GraphSync.Cypher.Syntax

/-!
# References

A reference says where the value of a property or of a matcher field comes from: a field of the
input row, or a parameter of the run. In a matcher it also says how the value is compared.
-/

namespace GraphSync

/-- Where a value is read. -/
inductive Origin where
  /-- From each input row. -/
  | row
  /-- From the run's parameters, the same value for every row. -/
  | parameter
  deriving DecidableEq

/-- How a matcher field is compared with its value. -/
inductive MatchMode where
  | exact
  /-- The value is a list, and the field is one of its elements. -/
  | oneToMany
  | ignoreCase
  /-- The field contains the value, whatever the case. -/
  | fuzzy
  deriving DecidableEq

/-- A named source of a value. -/
structure Reference where
  name : String
  origin : Origin
  mode : MatchMode := .exact
  /-- Whether the property asks for an index of its own. -/
  extraIndex : Bool := false
  deriving DecidableEq

namespace Reference

/-- A value read from a field of the row. -/
def row (name : String) : Reference := { name, origin := .row }

/-- A value read from a run parameter. -/
def param (name : String) : Reference := { name, origin := .parameter }

/-- The reference with an index on the property that it feeds. -/
def withExtraIndex (r : Reference) : Reference := { r with extraIndex := true }

/-- The reference with another way to compare; a reference has one at a time. -/
def withMode (r : Reference) (mode : MatchMode) : Reference := { r with mode }

/-- Whether the value is a run parameter. -/
def isParameter (r : Reference) : Bool := r.origin = .parameter

/-- The expression that gives the value. -/
def expr (r : Reference) : Cypher.Expr :=
  match r.origin with
  | .row => .field r.name
  | .parameter => .param r.name

end Reference

end GraphSync
