/-!
# Cypher syntax

The fragment of Cypher that schemas compile to, as trees. Compilers build trees; text comes only
from the printer, and the parameters a query needs are read off the tree.
-/

namespace GraphSync.Cypher

/-- The variable that stands for the current input row. -/
def rowAlias : String := "item"

/-! ## Expressions and conditions -/

/-- A value expression. -/
inductive Expr where
  /-- A run parameter. -/
  | param (name : String)
  /-- A field of the current input row. -/
  | field (name : String)
  /-- A property of a bound element. -/
  | property (var key : String)
  | var (name : String)
  | timestamp
  | countAll
  | toLower (e : Expr)
  deriving DecidableEq

/-- A condition of a `WHERE`. -/
inductive Condition where
  | eq (a b : Expr)
  | ne (a b : Expr)
  | isIn (a b : Expr)
  | contains (a b : Expr)
  | isNotNull (a : Expr)
  deriving DecidableEq

/-! ## Patterns -/

/-- A node pattern: an optional variable, labels, and properties with their values. -/
structure NodePattern where
  var : Option String := none
  labels : List String := []
  props : List (String × Expr) := []
  deriving DecidableEq

/-- Which way a relationship runs, seen from the node on its left. -/
inductive Arrow where
  | outgoing
  | incoming
  deriving DecidableEq

/-- A relationship pattern: an optional variable, the type, and the arrow. -/
structure RelPattern where
  var : Option String
  type : String
  arrow : Arrow
  deriving DecidableEq

/-- A path pattern: a node, then hops along relationships to further nodes. -/
structure Path where
  start : NodePattern
  hops : List (RelPattern × NodePattern) := []
  deriving DecidableEq

/-! ## Clauses -/

/-- One item of a `SET`: a property's new value, or labels to add. -/
inductive SetItem where
  | property (var key : String) (value : Expr)
  | labels (var : String) (labels : List String)
  deriving DecidableEq

/-- A clause. The branches of a `call` are unit subqueries joined by `UNION`. -/
inductive Clause where
  | unwind (list : Expr) (var : String)
  | matching (optional : Bool) (path : Path) (conditions : List Condition)
  | merge (path : Path) (onCreate : List SetItem)
  | set (items : List SetItem)
  | withVars (vars : List String) (conditions : List Condition) (limit : Option Expr)
  | call (branches : List (List Clause))
  | delete (detach : Bool) (var : String)
  | returning (items : List (Expr × String))

/-- A query is a list of clauses. -/
abbrev Query := List Clause

/-- A query with one more clause at its end. -/
def Query.push (q : Query) (clause : Clause) : Query := q ++ [clause]

end GraphSync.Cypher
