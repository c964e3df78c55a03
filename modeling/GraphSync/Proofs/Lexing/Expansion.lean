import GraphSync.Proofs.Lexing.Printer
import Mathlib.Data.List.Basic

/-! # Fields as properties

    A field of the input row is printed as a property of the variable `item`,
    so the printer cannot tell the two apart.  Here every field of a tree is
    written as such a property (`expanded`), and the text stays the same
    (`Query.text_expanded`).  That this is all the printer confuses is shown
    elsewhere; these are the representatives. -/

namespace GraphSync.Cypher

/-! ## Expressions, conditions and patterns -/

/-- An expression with fields as properties of the row. -/
def Expr.expanded : Expr → Expr
  | .field name => .property rowAlias name
  | .toLower e => .toLower e.expanded
  | .param name => .param name
  | .property v key => .property v key
  | .var name => .var name
  | .timestamp => .timestamp
  | .countAll => .countAll

/-- A condition on expanded expressions. -/
def Condition.expanded : Condition → Condition
  | .eq a b => .eq a.expanded b.expanded
  | .ne a b => .ne a.expanded b.expanded
  | .isIn a b => .isIn a.expanded b.expanded
  | .contains a b => .contains a.expanded b.expanded
  | .isNotNull a => .isNotNull a.expanded

/-- A node pattern with expanded values. -/
def NodePattern.expanded (n : NodePattern) : NodePattern :=
  { n with props := n.props.map fun p => (p.1, p.2.expanded) }

/-- A path of expanded node patterns. -/
def Path.expanded (p : Path) : Path where
  start := p.start.expanded
  hops := p.hops.map fun hop => (hop.1, hop.2.expanded)

/-- A `SET` item with an expanded value. -/
def SetItem.expanded : SetItem → SetItem
  | .property v key value => .property v key value.expanded
  | .labels v names => .labels v names

/-! ## Clauses -/

mutual

/-- A clause with fields as properties of the row. -/
def Clause.expanded : Clause → Clause
  | .unwind list var => .unwind list.expanded var
  | .matching optional path conditions =>
    .matching optional path.expanded (conditions.map Condition.expanded)
  | .merge path onCreate => .merge path.expanded (onCreate.map SetItem.expanded)
  | .set items => .set (items.map SetItem.expanded)
  | .withVars vars conditions limit =>
    .withVars vars (conditions.map Condition.expanded) (limit.map Expr.expanded)
  | .call branches => .call (branchesExpanded branches)
  | .delete detach var => .delete detach var
  | .returning items => .returning (items.map fun i => (i.1.expanded, i.2))

/-- Clauses with fields as properties of the row. -/
def clausesExpanded : List Clause → List Clause
  | [] => []
  | clause :: rest => clause.expanded :: clausesExpanded rest

/-- Branches with fields as properties of the row. -/
def branchesExpanded : List (List Clause) → List (List Clause)
  | [] => []
  | branch :: rest => clausesExpanded branch :: branchesExpanded rest

end

/-- A query with fields as properties of the row. -/
def Query.expanded (q : Query) : Query := clausesExpanded q

theorem clausesExpanded_eq (clauses : List Clause) :
    clausesExpanded clauses = clauses.map Clause.expanded := by
  induction clauses with
  | nil => rfl
  | cons clause rest ih => rw [clausesExpanded, ih, List.map_cons]

theorem branchesExpanded_eq (branches : List (List Clause)) :
    branchesExpanded branches = branches.map (List.map Clause.expanded) := by
  induction branches with
  | nil => rfl
  | cons branch rest ih => rw [branchesExpanded, ih, clausesExpanded_eq, List.map_cons]

/-! ## The text stays the same -/

@[simp]
theorem Expr.text_expanded (e : Expr) : e.expanded.text = e.text := by
  induction e with
  | toLower e ih => rw [expanded, text, text, ih]
  | _ => rfl

@[simp]
theorem Condition.text_expanded (c : Condition) : c.expanded.text = c.text := by
  cases c <;> simp only [expanded, text, Expr.text_expanded]

@[simp]
theorem NodePattern.text_expanded (n : NodePattern) : n.expanded.text = n.text := by
  simp only [expanded, text, List.map_map, Function.comp_def, Expr.text_expanded]

@[simp]
theorem Path.text_expanded (p : Path) : p.expanded.text = p.text := by
  simp only [expanded, text, List.map_map, Function.comp_def, NodePattern.text_expanded]

@[simp]
theorem SetItem.text_expanded (i : SetItem) : i.expanded.text = i.text := by
  cases i <;> simp only [expanded, text, Expr.text_expanded]

theorem conditionsText_expanded (conditions : List Condition) :
    conditionsText (conditions.map Condition.expanded) = conditionsText conditions := by
  simp only [conditionsText, List.map_map, Function.comp_def, Condition.text_expanded]

theorem commaLines_expanded :
    ∀ items : List SetItem, commaLines (items.map SetItem.expanded) = commaLines items
  | [] => rfl
  | [item] => by
    simp only [List.map_cons, List.map_nil, commaLines, SetItem.text_expanded]
  | item :: second :: rest => by
    have hrest := commaLines_expanded (second :: rest)
    simp only [List.map_cons] at hrest
    simp only [List.map_cons, commaLines, SetItem.text_expanded, hrest]

theorem setLines_expanded : ∀ items : List SetItem,
    setLines (items.map SetItem.expanded) = setLines items
  | [] => rfl
  | [item] => by
    simp only [List.map_cons, List.map_nil, setLines, SetItem.text_expanded]
  | item :: second :: rest => by
    have hlines := commaLines_expanded (item :: second :: rest)
    simp only [List.map_cons] at hlines
    simp only [List.map_cons, setLines, hlines]

theorem withLine_expanded (vars : List String) (conditions : List Condition)
    (limit : Option Expr) :
    withLine vars (conditions.map Condition.expanded) (limit.map Expr.expanded) =
      withLine vars conditions limit := by
  unfold withLine
  rw [conditionsText_expanded, List.isEmpty_map]
  cases limit with
  | none => rfl
  | some e => simp only [Option.map_some, Expr.text_expanded]

mutual

theorem Clause.lines_expanded : ∀ clause : Clause, clause.expanded.lines = clause.lines
  | .unwind list var => by
    simp only [Clause.expanded, Clause.lines, Expr.text_expanded]
  | .matching optional path conditions => by
    simp only [Clause.expanded, Clause.lines, Path.text_expanded, conditionsText_expanded, List.isEmpty_map]
  | .merge path onCreate => by
    simp only [Clause.expanded, Clause.lines, Path.text_expanded, List.isEmpty_map, List.map_map,
      Function.comp_def, SetItem.text_expanded]
  | .set items => by
    simp only [Clause.expanded, Clause.lines, setLines_expanded]
  | .withVars vars conditions limit => by
    simp only [Clause.expanded, Clause.lines, withLine_expanded]
  | .call branches => by
    simp only [Clause.expanded, Clause.lines, branchLines_expanded branches]
  | .delete detach var => rfl
  | .returning items => by
    simp only [Clause.expanded, Clause.lines, List.map_map, Function.comp_def, Expr.text_expanded]

theorem clauseLines_expanded :
    ∀ clauses : List Clause, clauseLines (clausesExpanded clauses) = clauseLines clauses
  | [] => rfl
  | clause :: rest => by
    simp only [clausesExpanded, clauseLines, Clause.lines_expanded clause,
      clauseLines_expanded rest]

theorem branchLines_expanded :
    ∀ branches : List (List Clause), branchLines (branchesExpanded branches) = branchLines branches
  | [] => rfl
  | [branch] => by
    simp only [branchesExpanded, branchLines, clauseLines_expanded branch]
  | branch :: second :: rest => by
    have hrest := branchLines_expanded (second :: rest)
    simp only [branchesExpanded] at hrest
    simp only [branchesExpanded, branchLines, clauseLines_expanded branch, hrest]

end

theorem Query.text_expanded (q : Query) : q.expanded.text = q.text := by
  unfold text expanded
  rw [clauseLines_expanded]

end GraphSync.Cypher
