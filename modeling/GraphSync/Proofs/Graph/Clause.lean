import GraphSync.Proofs.Graph.Pattern
import Mathlib.Data.Finset.Dedup
import Mathlib.Data.Finset.Lattice.Basic

/-! # Carrying out clauses

    A clause takes a state to the states it may lead to.  A state is a graph,
    the elements written so far, and the bindings that the clauses before it
    have left, one for each row.

    Clauses go through the rows in order.  A clause that cannot be carried
    out, such as a merge on a null property, leads to no state.  Left open
    are the rows that a limit keeps, the numbers of new elements and the time
    of the statement, and no theorem depends on how they are chosen.

    `written` is a record for theorems, which no clause reads: it lists every
    element that a clause has created or assigned to. -/

namespace GraphSync

/-- A graph with the elements that have been written. -/
structure Store where
  graph   : Graph
  written : List Element

/-- A store and the rows at some point of a query. -/
structure State where
  store : Store
  rows  : List Binding

namespace Graph

/-! ## Writing to a graph -/

/-- The graph with a new node. -/
def addNode (g : Graph) (n : Nat) (labels : Finset String) (props : String → Json)
    (h : n ∉ g.nodes) : Graph :=
  { g with
    nodes := g.nodes ++ [n]
    labels := fun m => if m = n then labels else g.labels m
    prop := fun e => if e = .node n then props else g.prop e
    nodes_nodup := List.nodup_append_comm.1 (List.nodup_cons.2 ⟨h, g.nodes_nodup⟩)
    ends_mem := fun l hl => by
      obtain ⟨hs, ht⟩ := g.ends_mem l hl
      exact ⟨List.mem_append_left _ hs, List.mem_append_left _ ht⟩ }

/-- The graph with a new link, without properties. -/
def addLink (g : Graph) (l : Nat) (type : String) (source target : Nat) (h : l ∉ g.links)
    (hs : source ∈ g.nodes) (ht : target ∈ g.nodes) : Graph :=
  { g with
    links := g.links ++ [l]
    type := fun k => if k = l then type else g.type k
    source := fun k => if k = l then source else g.source k
    target := fun k => if k = l then target else g.target k
    prop := fun e => if e = .link l then fun _ => .null else g.prop e
    links_nodup := List.nodup_append_comm.1 (List.nodup_cons.2 ⟨h, g.links_nodup⟩)
    ends_mem := fun k hk => by
      by_cases hkl : k = l
      · simp only [hkl, if_true]
        exact ⟨hs, ht⟩
      · simp only [hkl, if_false]
        rcases List.mem_append.1 hk with hk | hk
        · exact g.ends_mem k hk
        · exact absurd (List.mem_singleton.1 hk) hkl }

/-- The graph with a property in place of an earlier one. -/
def setProp (g : Graph) (e : Element) (key : String) (v : Json) : Graph :=
  { g with prop := fun e' k => if e' = e ∧ k = key then v else g.prop e' k }

/-- The graph with more labels on a node. -/
def addLabels (g : Graph) (n : Nat) (labels : List String) : Graph :=
  { g with labels := fun m => if m = n then g.labels m ∪ labels.toFinset else g.labels m }

end Graph

namespace Cypher

/-! ## Assigning -/

/-- The store after an assignment to what a row binds.  To assign to nothing
    changes nothing. -/
def SetItem.apply (cx : Context) (b : Binding) (s : Store) : SetItem → Option Store
  | .property v key e =>
    match b v, e.cell cx s.graph b with
    | some (.element x), .value w =>
      if w.isStorable then
        some { graph := s.graph.setProp x key w, written := s.written ++ [x] }
      else none
    | some (.value .null), _ => some s
    | _, _ => none
  | .labels v names =>
    match b v with
    | some (.element (.node n)) =>
      some { graph := s.graph.addLabels n names, written := s.written ++ [.node n] }
    | some (.value .null) => some s
    | _ => none

/-- The store after assignments, one after another. -/
def applyItems (cx : Context) (b : Binding) : List SetItem → Store → Option Store
  | [], s => some s
  | item :: rest, s => (item.apply cx b s).bind (applyItems cx b rest)

/-! ## Creating -/

/-- The value that a pattern gives a property. -/
def NodePattern.given (cx : Context) (g : Graph) (b : Binding) (p : NodePattern) (key : String) :
    Json :=
  match p.props.find? fun entry => entry.1 == key with
  | some (_, e) => (e.cell cx g b).json
  | none => .null

/-- `p.Creates cx b s n b' s'`: to make the node of a pattern gives `n`.  A
    node that is bound already is taken as it is; a new one gets the labels
    and the properties of the pattern, none of which may be null. -/
def NodePattern.Creates (cx : Context) (b : Binding) (s : Store) (p : NodePattern) (n : Nat)
    (b' : Binding) (s' : Store) : Prop :=
  match p.var.bind b with
  | some c => c.element? = some (.node n) ∧ n ∈ s.graph.nodes ∧ p.labels = [] ∧ p.props = [] ∧
      b' = b ∧ s' = s
  | none => (∀ entry ∈ p.props, (p.given cx s.graph b entry.1).isNull = false ∧
        (p.given cx s.graph b entry.1).isStorable = true) ∧
      b' = b.bindVar p.var (.element (.node n)) ∧
      ∃ h : n ∉ s.graph.nodes,
        s' = { graph := s.graph.addNode n p.labels.toFinset (p.given cx s.graph b) h
               written := s.written ++ [.node n] }

/-- To make the hops of a path that starts at the node `n`. -/
def CreatesHops (cx : Context) :
    List (RelPattern × NodePattern) → Nat → Binding → Store → Binding → Store → Prop
  | [], _, b, s, b', s' => b' = b ∧ s' = s
  | (rel, node) :: rest, n, b, s, b', s' =>
    ∃ m b₁ s₁, node.Creates cx b s m b₁ s₁ ∧ rel.var.bind b₁ = none ∧
      ∃ l, ∃ h : l ∉ s₁.graph.links, ∃ hn : n ∈ s₁.graph.nodes, ∃ hm : m ∈ s₁.graph.nodes,
        let graph :=
          match rel.arrow with
          | .outgoing => s₁.graph.addLink l rel.type n m h hn hm
          | .incoming => s₁.graph.addLink l rel.type m n h hm hn
        CreatesHops cx rest m (b₁.bindVar rel.var (.element (.link l)))
          { graph, written := s₁.written ++ [.link l] } b' s'

/-- To make the parts of a path that are not bound. -/
def Path.Creates (cx : Context) (b : Binding) (s : Store) (p : Path) (b' : Binding)
    (s' : Store) : Prop :=
  ∃ n b₁ s₁, p.start.Creates cx b s n b₁ s₁ ∧ CreatesHops cx p.hops n b₁ s₁ b' s'

/-- One row of a merge: all matches of the path if there are any, and else a
    new path, with the assignments for new ones. -/
def Path.Merges (cx : Context) (p : Path) (onCreate : List SetItem) (b : Binding) (s : Store)
    (out : List Binding) (s' : Store) : Prop :=
  (p.matches cx s.graph b ≠ [] ∧ out = p.matches cx s.graph b ∧ s' = s) ∨
  (p.matches cx s.graph b = [] ∧ ∃ b' s₁, p.Creates cx b s b' s₁ ∧ out = [b'] ∧
    applyItems cx b' onCreate s₁ = some s')

/-! ## Rows -/

/-- Some step for each row in turn, each on the store that the one before it
    left. -/
def EachRow (step : Binding → Store → List Binding → Store → Prop) :
    List Binding → Store → List Binding → Store → Prop
  | [], s, out, s' => out = [] ∧ s' = s
  | b :: rest, s, out, s' =>
    ∃ out₁ s₁ out₂, step b s out₁ s₁ ∧ EachRow step rest s₁ out₂ s' ∧ out = out₁ ++ out₂

/-- The items of a list value.  Null has none, and any other value is its own
    only item. -/
def unwound : Json → List Json
  | .null => []
  | .array vs => vs
  | v => [v]

/-- The rows of an optional match: a row without a match goes on, with null
    for the variables that the match would have bound. -/
def Path.foundOrNull (cx : Context) (g : Graph) (b : Binding) (p : Path)
    (conditions : List Condition) : List Binding :=
  match p.found cx g b conditions with
  | [] => [(p.vars.filter fun v => (b v).isNone).foldl (fun b v => b.bind v (.value .null)) b]
  | found => found

/-- `kept` are `n` of the rows, or all of them if there are fewer. -/
def Keeps (n : Nat) (rows kept : List Binding) : Prop :=
  kept.Subperm rows ∧ kept.length = min n rows.length

/-- The number that a limit asks for. -/
def limitOf : Json → Option Nat
  | .integer n => if 0 ≤ n.val then some n.val.toNat else none
  | _ => none

/-- The rows that a limit keeps. -/
def Limited (cx : Context) (g : Graph) (limit : Option Expr) (rows kept : List Binding) : Prop :=
  match limit with
  | none => kept = rows
  | some e => ∃ n, limitOf (e.cell cx g Binding.empty).json = some n ∧ Keeps n rows kept

/-- The elements that the rows bind a variable to. -/
def boundTo (var : String) (rows : List Binding) : List Element :=
  rows.filterMap fun b => b.element? var

/-- The graph after elements are deleted.  Without `detach` no link may lose
    an end. -/
def Deletes (detach : Bool) (dead : List Element) (g g' : Graph) : Prop :=
  (detach = true ∨ ∀ l ∈ g.links, g.touches dead l = true → .link l ∈ dead) ∧ g' = g.without dead

/-- The row that counts rows, each column the number of all rows. -/
def CountRow (items : List (Expr × String)) (rows out : List Binding) : Prop :=
  (∀ item ∈ items, item.1 = .countAll) ∧
    ∃ n : Int64, n.toInt = rows.length ∧
      out = [fun column => if column ∈ items.map (·.2) then some (.value (.ofInt64 n)) else none]

/-! ## Clauses -/

mutual

/-- `c.Exec cx p p'`: the clause `c` may lead from `p` to `p'`. -/
def Clause.Exec (cx : Context) : Clause → State → State → Prop
  | .unwind list var, p, p' =>
    p' = { p with rows := p.rows.flatMap fun b =>
      (unwound (list.cell cx p.store.graph b).json).map fun v => b.bind var (.value v) }
  | .matching optional path conditions, p, p' =>
    p' = { p with rows := p.rows.flatMap fun b =>
      if optional then path.foundOrNull cx p.store.graph b conditions
      else path.found cx p.store.graph b conditions }
  | .merge path onCreate, p, p' =>
    EachRow (path.Merges cx onCreate) p.rows p.store p'.rows p'.store
  | .set items, p, p' =>
    EachRow (fun b s out s' => applyItems cx b items s = some s' ∧ out = [b])
      p.rows p.store p'.rows p'.store
  | .withVars vars conditions limit, p, p' =>
    p'.store = p.store ∧
      Limited cx p.store.graph limit
        ((p.rows.map (Binding.only · vars)).filter fun b =>
          conditions.all fun c => c.holds cx p.store.graph b) p'.rows
  | .call branches, p, p' =>
    EachRow (fun b s out s' => branchesExec cx branches b s s' ∧ out = [b])
      p.rows p.store p'.rows p'.store
  | .delete detach var, p, p' =>
    p'.rows = p.rows ∧ p'.store.written = p.store.written ∧
      Deletes detach (boundTo var p.rows) p.store.graph p'.store.graph
  | .returning items, p, p' => p'.store = p.store ∧ CountRow items p.rows p'.rows

/-- Clauses one after another. -/
def clausesExec (cx : Context) : List Clause → State → State → Prop
  | [], p, p' => p' = p
  | c :: rest, p, p' => ∃ m, c.Exec cx p m ∧ clausesExec cx rest m p'

/-- All branches of a subquery, for one row. -/
def branchesExec (cx : Context) : List (List Clause) → Binding → Store → Store → Prop
  | [], _, s, s' => s' = s
  | branch :: rest, b, s, s' =>
    ∃ p, clausesExec cx branch { store := s, rows := [b] } p ∧ branchesExec cx rest b p.store s'

end

/-- `q.Exec cx s s' rows`: the query may take the store `s` to `s'` and
    return `rows`. -/
def Query.Exec (cx : Context) (q : Query) (s s' : Store) (rows : List Binding) : Prop :=
  clausesExec cx q { store := s, rows := [Binding.empty] } { store := s', rows }

end Cypher

end GraphSync
