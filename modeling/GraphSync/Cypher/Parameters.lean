import GraphSync.Cypher.Syntax

/-!
# The parameters of a query

`Query.parameters` lists the names that a query reads as parameters, each once and in code point
order.
-/

namespace GraphSync.Cypher

/-! ## Occurrences -/

/-- The parameters of an expression. -/
def Expr.params : Expr → List String
  | .param name => [name]
  | .toLower e => e.params
  | _ => []

/-- The parameters of a condition. -/
def Condition.params : Condition → List String
  | .eq a b | .ne a b | .isIn a b | .contains a b => a.params ++ b.params
  | .isNotNull a => a.params

/-- The parameters of a node pattern. -/
def NodePattern.params (n : NodePattern) : List String := n.props.flatMap fun p => p.2.params

/-- The parameters of a path. -/
def Path.params (p : Path) : List String :=
  p.start.params ++ p.hops.flatMap fun h => h.2.params

/-- The parameters of a `SET` item. -/
def SetItem.params : SetItem → List String
  | .property _ _ value => value.params
  | .labels _ _ => []

mutual

/-- The parameters of a clause, in the order of its parts. -/
def Clause.params : Clause → List String
  | .unwind list _ => list.params
  | .matching _ path conditions => path.params ++ conditions.flatMap Condition.params
  | .merge path onCreate => path.params ++ onCreate.flatMap SetItem.params
  | .set items => items.flatMap SetItem.params
  | .withVars _ conditions limit =>
    conditions.flatMap Condition.params
      ++ (match limit with
          | some e => e.params
          | none => [])
  | .call branches => branchParams branches
  | .delete _ _ => []
  | .returning items => items.flatMap fun i => i.1.params

/-- The parameters of clauses one after another. -/
def clauseParams : List Clause → List String
  | [] => []
  | clause :: rest => clause.params ++ clauseParams rest

/-- The parameters of all branches. -/
def branchParams : List (List Clause) → List String
  | [] => []
  | branch :: rest => clauseParams branch ++ branchParams rest

end

/-! ## The parameter list -/

/-- Names without repetition, in code point order. -/
def sortedNames (names : List String) : List String :=
  names.eraseDups.mergeSort fun a b => !(b < a)

/-- The parameters that a query reads. -/
def Query.parameters (q : Query) : List String := sortedNames (clauseParams q)

theorem mem_sortedNames {name : String} {names : List String} :
    name ∈ sortedNames names ↔ name ∈ names := by
  simp [sortedNames, List.mem_eraseDups]

end GraphSync.Cypher
