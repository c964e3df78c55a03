import GraphSync.Cypher.Identifier

/-!
# Index statements

A node index covers one property of a label. A relationship index covers one or more properties of
a relationship type.
-/

namespace GraphSync.Cypher

open Identifier (escape)

/-- What an index covers. -/
inductive Index where
  | node (label key : String)
  | relationship (type : String) (keys : List String)
  deriving DecidableEq

/-- The statement that creates an index, unless there is one already. -/
def Index.text : Index → String
  | .node label key =>
    "CREATE INDEX IF NOT EXISTS FOR (n:" ++ escape label ++ ") ON (n." ++ escape key ++ ")"
  | .relationship type keys =>
    "CREATE INDEX IF NOT EXISTS FOR ()-[r:" ++ escape type ++ "]-() ON ("
      ++ ", ".intercalate (keys.map fun key => "r." ++ escape key) ++ ")"

end GraphSync.Cypher
