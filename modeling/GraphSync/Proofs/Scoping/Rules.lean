import GraphSync.Cypher.Syntax
import Mathlib.Data.List.Nodup

/-! # Scoping

    Clauses hand variables on by name.  A clause reads what the clauses before
    it have bound and no `WITH` has dropped since, and it binds no name again.

    * `Query.WellScoped` says so of a whole query, with the scope that each
      clause leaves (`Clause.after`).
    * A pattern that is no more than a variable stands for a node that is
      bound already; any other one is a node to find or to make.
    * `Query.fields_eq_nil`: without an `UNWIND` there is no row to read. -/

namespace GraphSync.Cypher

/-! ## Scopes -/

/-- What a variable is bound to. -/
inductive Kind where
  /-- One item after another of an `UNWIND`. -/
  | row
  | node
  | link
  /-- What a query returns. -/
  | column
  deriving DecidableEq

/-- The variables that are bound at some point of a query. -/
abbrev Scope := List (String × Kind)

namespace Scope

/-- The names of the variables. -/
def names (Γ : Scope) : List String := Γ.map (·.1)

/-- The scope of some variables only. -/
def keep (Γ : Scope) (vars : List String) : Scope := Γ.filter fun entry => entry.1 ∈ vars

/-- A variable is bound to an element of the graph. -/
def HasElement (Γ : Scope) (x : String) : Prop := (x, .node) ∈ Γ ∨ (x, .link) ∈ Γ

/-- `Δ.NewTo Γ`: the variables of `Δ` are none of those of `Γ`, and none of them
    is bound twice. -/
structure NewTo (Δ Γ : Scope) : Prop where
  fresh : ∀ x ∈ Δ.names, x ∉ Γ.names
  once  : Δ.names.Nodup

theorem mem_names {Γ : Scope} {x : String} : x ∈ Γ.names ↔ ∃ kind, (x, kind) ∈ Γ := by
  simp [names]

theorem mem_keep {Γ : Scope} {vars : List String} {entry : String × Kind} :
    entry ∈ Γ.keep vars ↔ entry ∈ Γ ∧ entry.1 ∈ vars := by
  simp [keep]

theorem mem_names_keep {Γ : Scope} {vars : List String} {x : String} :
    x ∈ (Γ.keep vars).names ↔ x ∈ Γ.names ∧ x ∈ vars := by
  simp [mem_names, mem_keep]

theorem HasElement.mem_names {Γ : Scope} {x : String} (h : Γ.HasElement x) : x ∈ Γ.names :=
  Scope.mem_names.2 (h.elim (fun h => ⟨_, h⟩) (fun h => ⟨_, h⟩))

theorem names_append (Γ Δ : Scope) : (Γ ++ Δ : Scope).names = Γ.names ++ Δ.names :=
  List.map_append

theorem newTo_nil {Δ : Scope} : Δ.NewTo [] ↔ Δ.names.Nodup :=
  ⟨fun h => h.once, fun h => ⟨fun _ _ => List.not_mem_nil, h⟩⟩

/-- The order of new variables is no matter. -/
theorem NewTo.perm {Γ Δ Θ : Scope} (h : Δ.NewTo Γ) (hperm : Δ.Perm Θ) : Θ.NewTo Γ where
  fresh := fun x hx => h.fresh x ((hperm.map _).mem_iff.2 hx)
  once  := (hperm.map _).nodup_iff.1 h.once

theorem newTo_singleton {Γ : Scope} {x : String} {kind : Kind} :
    NewTo [(x, kind)] Γ ↔ x ∉ Γ.names :=
  ⟨fun h => h.fresh x (List.mem_singleton_self x),
    fun h => ⟨List.forall_mem_singleton.2 h, List.nodup_singleton x⟩⟩

/-- Variables are new together if they are one after the other. -/
theorem newTo_append {Γ Δ Θ : Scope} :
    (Δ ++ Θ : Scope).NewTo Γ ↔ Δ.NewTo Γ ∧ Θ.NewTo (Γ ++ Δ) := by
  constructor
  · intro ⟨hfresh, honce⟩
    rw [names_append] at hfresh honce
    obtain ⟨hΔ, hΘ, hdisjoint⟩ := List.nodup_append'.1 honce
    refine ⟨⟨fun x hx => hfresh x (List.mem_append_left _ hx), hΔ⟩, ⟨fun x hx => ?_, hΘ⟩⟩
    rw [names_append, List.mem_append, not_or]
    exact ⟨hfresh x (List.mem_append_right _ hx), fun h => hdisjoint h hx⟩
  · rintro ⟨⟨hΔfresh, hΔ⟩, ⟨hΘfresh, hΘ⟩⟩
    simp only [names_append, List.mem_append, not_or] at hΘfresh
    refine ⟨?_, ?_⟩
    · rw [names_append]
      exact List.forall_mem_append.2 ⟨hΔfresh, fun x hx => (hΘfresh x hx).1⟩
    · rw [names_append]
      exact List.nodup_append'.2 ⟨hΔ, hΘ, fun x hx hx' => (hΘfresh x hx').2 hx⟩

end Scope

/-! ## The parts of a clause

    The expressions that a part reads, and the variables that a pattern takes
    over or binds. -/

/-- The row fields that an expression reads. -/
def Expr.fields : Expr → List String
  | .field name => [name]
  | .toLower e => e.fields
  | _ => []

/-- What a condition compares. -/
def Condition.operands : Condition → List Expr
  | .eq a b | .ne a b | .isIn a b | .contains a b => [a, b]
  | .isNotNull a => [a]

/-- The values that a pattern asks of properties. -/
def NodePattern.values (n : NodePattern) : List Expr := n.props.map (·.2)

/-- A pattern that is no more than a variable, or not even that. -/
def NodePattern.isBare (n : NodePattern) : Bool := n.labels.isEmpty && n.props.isEmpty

/-- The variable of a node that a pattern takes over. -/
def NodePattern.reused? (n : NodePattern) : Option String := if n.isBare then n.var else none

/-- The variable that a pattern binds to a new node. -/
def NodePattern.binds (n : NodePattern) : Scope :=
  if n.isBare then [] else n.var.toList.map (·, .node)

/-- The variable that a pattern binds to a link. -/
def RelPattern.binds (r : RelPattern) : Scope := r.var.toList.map (·, .link)

/-- The node patterns of a path. -/
def Path.nodes (p : Path) : List NodePattern := p.start :: p.hops.map (·.2)

/-- The values that a path asks of properties. -/
def Path.values (p : Path) : List Expr := p.nodes.flatMap NodePattern.values

/-- The variables that hops bind, in order. -/
def hopsBind (hops : List (RelPattern × NodePattern)) : Scope :=
  hops.flatMap fun h => h.1.binds ++ h.2.binds

/-- The variables that a path binds, in order. -/
def Path.binds (p : Path) : Scope := p.start.binds ++ hopsBind p.hops

/-- The value that a `SET` item assigns. -/
def SetItem.values : SetItem → List Expr
  | .property _ _ value => [value]
  | .labels _ _ => []

/-! ## Reading a scope -/

/-- `e.ScopedIn Γ`: an expression reads variables of the scope only, row
    fields only of rows, and properties only of elements. -/
def Expr.ScopedIn (Γ : Scope) : Expr → Prop
  | .param _ | .timestamp | .countAll => True
  | .field _ => (rowAlias, .row) ∈ Γ
  | .property x _ => Γ.HasElement x
  | .var x => x ∈ Γ.names
  | .toLower e => e.ScopedIn Γ

/-- A condition reads variables of the scope only. -/
def Condition.ScopedIn (Γ : Scope) (c : Condition) : Prop := ∀ e ∈ c.operands, e.ScopedIn Γ

theorem Condition.ScopedIn.pair {Γ : Scope} {a b : Expr} (ha : a.ScopedIn Γ) (hb : b.ScopedIn Γ) :
    ∀ e ∈ [a, b], e.ScopedIn Γ :=
  List.forall_mem_cons.2 ⟨ha, List.forall_mem_singleton.2 hb⟩

/-- A `SET` item assigns to an element, and adds labels to a node. -/
def SetItem.ScopedIn (Γ : Scope) : SetItem → Prop
  | .property x _ value => Γ.HasElement x ∧ value.ScopedIn Γ
  | .labels x _ => (x, .node) ∈ Γ

theorem SetItem.ScopedIn.values {Γ : Scope} {item : SetItem} (h : item.ScopedIn Γ) :
    ∀ e ∈ item.values, e.ScopedIn Γ := by
  cases item with
  | property x key value =>
    intro e he
    rw [List.mem_singleton.1 he]
    exact h.2
  | labels x names =>
    intro e he
    cases he

/-- A node pattern reads variables of the scope only, and takes over nodes
    only. -/
structure NodePattern.ScopedIn (Γ : Scope) (n : NodePattern) : Prop where
  values : ∀ e ∈ n.values, e.ScopedIn Γ
  reused : ∀ x ∈ n.reused?, (x, .node) ∈ Γ

/-- A path reads the scope that the clauses before it have left, and binds new
    variables. -/
structure Path.ScopedIn (Γ : Scope) (p : Path) : Prop where
  nodes : ∀ n ∈ p.nodes, n.ScopedIn Γ
  binds : p.binds.NewTo Γ

theorem Path.ScopedIn.node {Γ : Scope} {n : NodePattern} (hn : n.ScopedIn Γ)
    (hnew : (Path.binds { start := n }).NewTo Γ) : Path.ScopedIn Γ { start := n } :=
  ⟨List.forall_mem_singleton.2 hn, hnew⟩

theorem Path.ScopedIn.hop {Γ : Scope} {left right : NodePattern} {rel : RelPattern}
    (hleft : left.ScopedIn Γ) (hright : right.ScopedIn Γ)
    (hnew : (Path.binds { start := left, hops := [(rel, right)] }).NewTo Γ) :
    Path.ScopedIn Γ { start := left, hops := [(rel, right)] } :=
  ⟨List.forall_mem_cons.2 ⟨hleft, List.forall_mem_singleton.2 hright⟩, hnew⟩

theorem Path.ScopedIn.hops {Γ : Scope} {p : Path} (h : p.ScopedIn Γ) :
    ∀ hop ∈ p.hops, hop.2.ScopedIn Γ := fun _ hhop =>
  h.nodes _ (List.mem_cons_of_mem _ (List.mem_map_of_mem hhop))

theorem Path.ScopedIn.values {Γ : Scope} {p : Path} (h : p.ScopedIn Γ) :
    ∀ e ∈ p.values, e.ScopedIn Γ := by
  intro e he
  obtain ⟨n, hn, he⟩ := List.mem_flatMap.1 he
  exact (h.nodes n hn).values e he

/-- A path that makes links only between nodes that it takes over. -/
def Path.Attaches (p : Path) : Prop := p.hops = [] ∨ ∀ n ∈ p.nodes, n.reused?.isSome = true

/-! ## Clauses -/

/-- The scope after a clause. -/
def Clause.after (Γ : Scope) : Clause → Scope
  | .unwind _ x => Γ ++ [(x, .row)]
  | .matching _ path _ | .merge path _ => Γ ++ path.binds
  | .set _ | .call _ | .delete _ _ => Γ
  | .withVars vars _ _ => Γ.keep vars
  | .returning items => items.map fun item => (item.2, .column)

/-- A subquery begins with a plain `WITH`, which lets some variables in. -/
def Imports : List Clause → Prop
  | .withVars _ [] none :: _ => True
  | _ => False

mutual

/-- `c.ScopedIn Γ`: a clause reads variables of the scope only, and binds none
    of them again.  The condition of a match and the assignments of a merge
    come after its path, the condition of a `WITH` after what it drops, and a
    limit reads no variable. -/
def Clause.ScopedIn (Γ : Scope) : Clause → Prop
  | .unwind list x => list.ScopedIn Γ ∧ Scope.NewTo [(x, .row)] Γ
  | .matching _ path conditions =>
    path.ScopedIn Γ ∧ ∀ c ∈ conditions, c.ScopedIn (Γ ++ path.binds)
  | .merge path onCreate =>
    path.ScopedIn Γ ∧ path.Attaches ∧ ∀ item ∈ onCreate, item.ScopedIn (Γ ++ path.binds)
  | .set items => ∀ item ∈ items, item.ScopedIn Γ
  | .withVars vars conditions limit =>
    (∀ x ∈ vars, x ∈ Γ.names) ∧ (∀ c ∈ conditions, c.ScopedIn (Γ.keep vars)) ∧
      ∀ e ∈ limit, e.ScopedIn []
  | .call branches => branchesScopedIn Γ branches
  | .delete _ x => Γ.HasElement x
  | .returning items => ∀ item ∈ items, item.1.ScopedIn Γ

/-- Clauses one after another, each in the scope that the one before it has
    left. -/
def clausesScopedIn (Γ : Scope) : List Clause → Prop
  | [] => True
  | c :: rest => c.ScopedIn Γ ∧ clausesScopedIn (c.after Γ) rest

/-- The branches of a subquery.  None sees more than it lets in, and none
    leaves anything to the next. -/
def branchesScopedIn (Γ : Scope) : List (List Clause) → Prop
  | [] => True
  | branch :: rest => (Imports branch ∧ clausesScopedIn Γ branch) ∧ branchesScopedIn Γ rest

end

/-- The scope after clauses one after another. -/
def clausesAfter (Γ : Scope) (clauses : List Clause) : Scope :=
  clauses.foldl (fun Γ c => c.after Γ) Γ

/-- A query starts from nothing. -/
def Query.WellScoped (q : Query) : Prop := clausesScopedIn [] q

theorem clausesScopedIn.nil {Γ : Scope} : clausesScopedIn Γ [] := trivial

theorem clausesScopedIn.cons {Γ Δ : Scope} {c : Clause} {rest : List Clause} (hc : c.ScopedIn Γ)
    (hafter : c.after Γ = Δ) (hrest : clausesScopedIn Δ rest) : clausesScopedIn Γ (c :: rest) :=
  ⟨hc, hafter ▸ hrest⟩

theorem clausesScopedIn_append {Γ : Scope} {clauses more : List Clause} :
    clausesScopedIn Γ (clauses ++ more) ↔
      clausesScopedIn Γ clauses ∧ clausesScopedIn (clausesAfter Γ clauses) more := by
  induction clauses generalizing Γ with
  | nil => simp [clausesScopedIn, clausesAfter]
  | cons c rest ih =>
    rw [List.cons_append, clausesScopedIn, clausesScopedIn, ih, and_assoc]
    rfl

theorem branchesScopedIn_iff {Γ : Scope} {branches : List (List Clause)} :
    branchesScopedIn Γ branches ↔
      ∀ branch ∈ branches, Imports branch ∧ clausesScopedIn Γ branch := by
  induction branches with
  | nil => simp [branchesScopedIn]
  | cons branch rest ih => rw [branchesScopedIn, ih, List.forall_mem_cons]

/-- A variable that has been dropped cannot be deleted. -/
example : ¬ Query.WellScoped
    [.matching false { start := { var := some "n", labels := ["Host"] } } [],
     .withVars [] [] none,
     .delete true "n"] := by
  simp [Query.WellScoped, clausesScopedIn, Clause.ScopedIn, Clause.after, Scope.HasElement,
    Scope.keep]

/-! ## Larger scopes -/

theorem Expr.ScopedIn.mono {Γ Δ : Scope} (h : Γ ⊆ Δ) {e : Expr} (he : e.ScopedIn Γ) :
    e.ScopedIn Δ := by
  induction e with
  | param _ | timestamp | countAll => trivial
  | field _ => exact h he
  | property x _ => exact he.imp (fun hx => h hx) (fun hx => h hx)
  | var x =>
    obtain ⟨kind, hx⟩ := Scope.mem_names.1 he
    exact Scope.mem_names.2 ⟨kind, h hx⟩
  | toLower e ih => exact ih he

/-! ## Row fields -/

mutual

/-- The expressions of a clause. -/
def Clause.exprs : Clause → List Expr
  | .unwind list _ => [list]
  | .matching _ path conditions => path.values ++ conditions.flatMap Condition.operands
  | .merge path onCreate => path.values ++ onCreate.flatMap SetItem.values
  | .set items => items.flatMap SetItem.values
  | .withVars _ conditions limit => conditions.flatMap Condition.operands ++ limit.toList
  | .call branches => branchExprs branches
  | .delete _ _ => []
  | .returning items => items.map (·.1)

/-- The expressions of clauses one after another. -/
def clauseExprs : List Clause → List Expr
  | [] => []
  | c :: rest => c.exprs ++ clauseExprs rest

/-- The expressions of all branches. -/
def branchExprs : List (List Clause) → List Expr
  | [] => []
  | branch :: rest => clauseExprs branch ++ branchExprs rest

end

mutual

/-- A clause has an `UNWIND`, by itself or in a subquery. -/
def Clause.unwinds : Clause → Bool
  | .unwind _ _ => true
  | .call branches => branchesUnwind branches
  | _ => false

/-- Some of the clauses has an `UNWIND`. -/
def clausesUnwind : List Clause → Bool
  | [] => false
  | c :: rest => c.unwinds || clausesUnwind rest

/-- Some of the branches has an `UNWIND`. -/
def branchesUnwind : List (List Clause) → Bool
  | [] => false
  | branch :: rest => clausesUnwind branch || branchesUnwind rest

end

/-- The row fields that a query reads. -/
def Query.fields (q : Query) : List String := (clauseExprs q).flatMap Expr.fields

/-- An expression reads no row field where there is no row. -/
theorem Expr.ScopedIn.fields_eq_nil {Γ : Scope} (hrow : (rowAlias, .row) ∉ Γ) {e : Expr}
    (he : e.ScopedIn Γ) : e.fields = [] := by
  induction e with
  | field _ => exact absurd he hrow
  | toLower e ih => exact ih he
  | _ => rfl

theorem NodePattern.mem_binds {n : NodePattern} {entry : String × Kind} (h : entry ∈ n.binds) :
    n.var = some entry.1 ∧ entry.2 = .node := by
  unfold binds at h
  split at h
  · cases h
  · obtain ⟨x, hx, rfl⟩ := List.mem_map.1 h
    exact ⟨Option.mem_toList.1 hx, rfl⟩

theorem RelPattern.mem_binds {r : RelPattern} {entry : String × Kind} (h : entry ∈ r.binds) :
    r.var = some entry.1 ∧ entry.2 = .link := by
  obtain ⟨x, hx, rfl⟩ := List.mem_map.1 h
  exact ⟨Option.mem_toList.1 hx, rfl⟩

/-- A path binds nodes and links. -/
theorem Path.kind_of_mem_binds {p : Path} {entry : String × Kind} (h : entry ∈ p.binds) :
    entry.2 = .node ∨ entry.2 = .link := by
  rcases List.mem_append.1 h with h | h
  · exact .inl (NodePattern.mem_binds h).2
  · obtain ⟨hop, -, h⟩ := List.mem_flatMap.1 h
    rcases List.mem_append.1 h with h | h
    · exact .inr (RelPattern.mem_binds h).2
    · exact .inl (NodePattern.mem_binds h).2

theorem Path.row_notMem_append {Γ : Scope} {x : String} (hrow : (x, .row) ∉ Γ) (p : Path) :
    (x, .row) ∉ Γ ++ p.binds := by
  intro h
  rcases List.mem_append.1 h with h | h
  · exact hrow h
  · rcases p.kind_of_mem_binds h with hkind | hkind
    · cases hkind
    · cases hkind

/-- Only an `UNWIND` makes rows. -/
theorem Clause.row_notMem_after {Γ : Scope} {x : String} (hrow : (x, .row) ∉ Γ) {c : Clause}
    (hc : c.unwinds = false) : (x, .row) ∉ c.after Γ := by
  cases c with
  | unwind list y => cases hc
  | matching optional path conditions => exact path.row_notMem_append hrow
  | merge path onCreate => exact path.row_notMem_append hrow
  | withVars vars conditions limit => exact fun h => hrow (Scope.mem_keep.1 h).1
  | returning items => simp [after]
  | _ => exact hrow

mutual

theorem Clause.ScopedIn.fields_eq_nil {Γ : Scope} (hrow : (rowAlias, .row) ∉ Γ) :
    ∀ c : Clause, c.ScopedIn Γ → c.unwinds = false → ∀ e ∈ c.exprs, e.fields = []
  | .unwind _ _, _, h => by cases h
  | .matching _ path conditions, hc, _ => by
    intro e he
    -- the conditions read the scope after the path, which has no row either
    rcases List.mem_append.1 he with he | he
    · exact (hc.1.values e he).fields_eq_nil hrow
    · obtain ⟨condition, hcondition, he⟩ := List.mem_flatMap.1 he
      exact (hc.2 condition hcondition e he).fields_eq_nil (path.row_notMem_append hrow)
  | .merge path onCreate, hc, _ => by
    intro e he
    rcases List.mem_append.1 he with he | he
    · exact (hc.1.values e he).fields_eq_nil hrow
    · obtain ⟨item, hitem, he⟩ := List.mem_flatMap.1 he
      exact ((hc.2.2 item hitem).values e he).fields_eq_nil (path.row_notMem_append hrow)
  | .set items, hc, _ => by
    intro e he
    obtain ⟨item, hitem, he⟩ := List.mem_flatMap.1 he
    exact ((hc item hitem).values e he).fields_eq_nil hrow
  | .withVars vars conditions limit, hc, _ => by
    intro e he
    rcases List.mem_append.1 he with he | he
    · obtain ⟨condition, hcondition, he⟩ := List.mem_flatMap.1 he
      exact (hc.2.1 condition hcondition e he).fields_eq_nil
        (fun h => hrow (Scope.mem_keep.1 h).1)
    · exact (hc.2.2 e (Option.mem_toList.1 he)).fields_eq_nil List.not_mem_nil
  | .call branches, hc, h => branchesScopedIn.fields_eq_nil hrow branches hc h
  | .delete _ _, _, _ => by
    intro e he
    cases he
  | .returning items, hc, _ => by
    intro e he
    obtain ⟨item, hitem, rfl⟩ := List.mem_map.1 he
    exact (hc item hitem).fields_eq_nil hrow

theorem clausesScopedIn.fields_eq_nil {Γ : Scope} (hrow : (rowAlias, .row) ∉ Γ) :
    ∀ clauses : List Clause, clausesScopedIn Γ clauses → clausesUnwind clauses = false →
      ∀ e ∈ clauseExprs clauses, e.fields = []
  | [], _, _ => by
    intro e he
    cases he
  | c :: rest, hc, h => by
    obtain ⟨hhead, htail⟩ := Bool.or_eq_false_iff.1 h
    intro e he
    rcases List.mem_append.1 he with he | he
    · exact Clause.ScopedIn.fields_eq_nil hrow c hc.1 hhead e he
    · exact clausesScopedIn.fields_eq_nil (c.row_notMem_after hrow hhead) rest hc.2 htail e he

theorem branchesScopedIn.fields_eq_nil {Γ : Scope} (hrow : (rowAlias, .row) ∉ Γ) :
    ∀ branches : List (List Clause), branchesScopedIn Γ branches → branchesUnwind branches = false →
      ∀ e ∈ branchExprs branches, e.fields = []
  | [], _, _ => by
    intro e he
    cases he
  | branch :: rest, hc, h => by
    obtain ⟨hhead, htail⟩ := Bool.or_eq_false_iff.1 h
    intro e he
    rcases List.mem_append.1 he with he | he
    · exact clausesScopedIn.fields_eq_nil hrow branch hc.1.2 hhead e he
    · exact branchesScopedIn.fields_eq_nil hrow rest hc.2 htail e he

end

/-- A query without an `UNWIND` reads no row field. -/
theorem Query.WellScoped.fields_eq_nil {q : Query} (hq : q.WellScoped)
    (h : clausesUnwind q = false) : q.fields = [] :=
  List.flatMap_eq_nil_iff.2 (clausesScopedIn.fields_eq_nil List.not_mem_nil q hq h)

end GraphSync.Cypher
