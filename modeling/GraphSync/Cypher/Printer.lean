import GraphSync.Cypher.Identifier
import GraphSync.Cypher.Syntax

/-!
# Writing Cypher

Every name goes through `Identifier.escape`; variables and aliases are written as they are. A clause
is one or more lines, and the lines of subqueries are indented by four spaces.
-/

namespace GraphSync.Cypher

open Identifier (escape)

/-! ## Expressions, conditions and patterns -/

/-- The text of an expression. -/
def Expr.text : Expr → String
  | .param name => "$" ++ escape name
  | .field name => rowAlias ++ "." ++ escape name
  | .property v key => v ++ "." ++ escape key
  | .var name => name
  | .timestamp => "timestamp()"
  | .countAll => "count(*)"
  | .toLower e => "toLower(" ++ e.text ++ ")"

/-- The text of a condition. -/
def Condition.text : Condition → String
  | .eq a b => a.text ++ " = " ++ b.text
  | .ne a b => a.text ++ " <> " ++ b.text
  | .isIn a b => a.text ++ " IN " ++ b.text
  | .contains a b => a.text ++ " CONTAINS " ++ b.text
  | .isNotNull a => a.text ++ " IS NOT NULL"

/-- Labels, each after a colon. -/
def labelsText (labels : List String) : String :=
  String.join (labels.map fun label => ":" ++ escape label)

/-- The text of a node pattern. -/
def NodePattern.text (n : NodePattern) : String :=
  let props := n.props.map fun (key, value) => escape key ++ ": " ++ value.text
  "(" ++ n.var.getD "" ++ labelsText n.labels
    ++ (if props.isEmpty then "" else " \x7b" ++ ", ".intercalate props ++ "\x7d") ++ ")"

/-- The text of a relationship pattern. -/
def RelPattern.text (r : RelPattern) : String :=
  let inner := "[" ++ r.var.getD "" ++ ":" ++ escape r.type ++ "]"
  match r.arrow with
  | .outgoing => "-" ++ inner ++ "->"
  | .incoming => "<-" ++ inner ++ "-"

/-- The text of a path. -/
def Path.text (p : Path) : String :=
  p.start.text ++ String.join (p.hops.map fun (rel, node) => rel.text ++ node.text)

/-- The text of a `SET` item. -/
def SetItem.text : SetItem → String
  | .property v key value => v ++ "." ++ escape key ++ " = " ++ value.text
  | .labels v names => v ++ labelsText names

/-! ## Clauses -/

/-- The indentation of nested lines. -/
def indent (line : String) : String := "    " ++ line

/-- Conditions joined by `AND`. -/
def conditionsText (conditions : List Condition) : String :=
  " AND ".intercalate (conditions.map Condition.text)

/-- Items one to a line, a comma after each but the last. -/
def commaLines : List SetItem → List String
  | [] => []
  | [item] => [indent item.text]
  | item :: rest => indent (item.text ++ ",") :: commaLines rest

/-- The lines of a `SET`: a single item stands on the line of the keyword. -/
def setLines : List SetItem → List String
  | [item] => ["SET " ++ item.text]
  | items => "SET" :: commaLines items

/-- The line of a `WITH`. -/
def withLine (vars : List String) (conditions : List Condition) (limit : Option Expr) : String :=
  "WITH " ++ ", ".intercalate vars
    ++ (if conditions.isEmpty then "" else " WHERE " ++ conditionsText conditions)
    ++ (match limit with
        | some e => " LIMIT " ++ e.text
        | none => "")

mutual

/-- The lines of a clause. -/
def Clause.lines : Clause → List String
  | .unwind list var => ["UNWIND " ++ list.text ++ " AS " ++ var]
  | .matching optional path conditions =>
    ((if optional then "OPTIONAL MATCH " else "MATCH ") ++ path.text)
      :: (if conditions.isEmpty then [] else ["WHERE " ++ conditionsText conditions])
  | .merge path onCreate =>
    ("MERGE " ++ path.text)
      :: (if onCreate.isEmpty then []
          else ["ON CREATE SET " ++ ", ".intercalate (onCreate.map SetItem.text)])
  | .set items => setLines items
  | .withVars vars conditions limit => [withLine vars conditions limit]
  | .call branches => "CALL \x7b" :: (branchLines branches ++ ["\x7d"])
  | .delete detach var => [(if detach then "DETACH DELETE " else "DELETE ") ++ var]
  | .returning items =>
    ["RETURN " ++ ", ".intercalate (items.map fun (e, column) => e.text ++ " AS " ++ column)]

/-- The lines of clauses one after another. -/
def clauseLines : List Clause → List String
  | [] => []
  | clause :: rest => clause.lines ++ clauseLines rest

/-- The indented lines of branches, with `UNION` between two. -/
def branchLines : List (List Clause) → List String
  | [] => []
  | [branch] => (clauseLines branch).map indent
  | branch :: rest => (clauseLines branch).map indent ++ indent "UNION" :: branchLines rest

end

/-- The text of a query. -/
def Query.text (q : Query) : String := "\n".intercalate (clauseLines q)

end GraphSync.Cypher
