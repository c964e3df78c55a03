import GraphSync.Proofs.Cleanup.Job
import GraphSync.Proofs.Ingestion.Load
import GraphSync.Proofs.Scoping.Execution

/-! # Scopes of compiled queries

    Each part that queries are made of is scoped wherever its variables are
    (`scopedIn_endpointPattern` to `scopedIn_sweep`), and so are the queries:
    `compiled_queries_are_scoped`.  No run of them ever comes to a variable
    that is not bound (`Schema.Built.supplied`).

    The owner of a schema is found in queries that have no row.  That this is
    right is up to the check of its matcher, which lets parameters through
    only. -/

namespace GraphSync

open Cypher Plan

variable {Γ : Scope}

/-! ## Parts -/

/-- The values of a matcher or of properties read variables of a scope
    only. -/
def Fields.ScopedIn (Γ : Scope) (fields : Fields) : Prop :=
  ∀ entry ∈ fields, entry.2.expr.ScopedIn Γ

/-- Where there is a row, any reference will do. -/
theorem Reference.scopedIn_of_row (h : (rowAlias, .row) ∈ Γ) (r : Reference) :
    r.expr.ScopedIn Γ := by
  unfold Reference.expr
  split
  · exact h
  · trivial

theorem Fields.scopedIn_of_row (h : (rowAlias, .row) ∈ Γ) (fields : Fields) :
    fields.ScopedIn Γ := fun entry _ => entry.2.scopedIn_of_row h

/-- Parameters are read anywhere. -/
theorem Fields.scopedIn_of_parameters {fields : Fields}
    (h : ∀ entry ∈ fields, entry.2.isParameter = true) : fields.ScopedIn Γ := by
  intro entry hentry
  have horigin : entry.2.origin = .parameter := by
    simpa [Reference.isParameter] using h entry hentry
  unfold Reference.expr
  rw [horigin]
  trivial

theorem Fields.ScopedIn.mono {Δ : Scope} (h : Γ ⊆ Δ) {fields : Fields}
    (hfields : fields.ScopedIn Γ) : fields.ScopedIn Δ := fun entry hentry =>
  (hfields entry hentry).mono h

namespace Plan

theorem scopedIn_endpointPattern {e : Endpoint} (he : e.matcher.ScopedIn Γ) (var : String) :
    (endpointPattern var e).ScopedIn Γ where
  values := by
    intro value hvalue
    obtain ⟨prop, hprop, rfl⟩ := List.mem_map.1 hvalue
    obtain ⟨⟨field, r⟩, hentry, hsome⟩ := List.mem_filterMap.1 hprop
    cases hmode : r.mode with
    | exact =>
      simp only [patternProp, hmode, Option.some.injEq] at hsome
      subst hsome
      exact he (field, r) hentry
    | _ => simp [patternProp, hmode] at hsome
  reused := fun x hx => absurd hx (Option.not_mem_none x)

/-- A pattern of labels finds any node that has them. -/
theorem scopedIn_labelled (var : Option String) (label : String) :
    NodePattern.ScopedIn Γ { var := var, labels := [label] } where
  values := fun _ he => absurd he List.not_mem_nil
  reused := fun x hx => absurd hx (Option.not_mem_none x)

/-- A pattern of a variable stands for its node. -/
theorem scopedIn_bare {var : String} (hvar : (var, .node) ∈ Γ) :
    NodePattern.ScopedIn Γ { var := some var } where
  values := fun _ he => absurd he List.not_mem_nil
  reused := fun x hx => by
    cases hx
    exact hvar

/-- The conditions on an endpoint read its node, and what its matcher reads. -/
theorem scopedIn_endpointConditions {e : Endpoint} (he : e.matcher.ScopedIn Γ) {var : String}
    (hvar : (var, .node) ∈ Γ) : ∀ c ∈ endpointConditions var e, c.ScopedIn Γ := by
  intro c hc
  obtain ⟨⟨field, r⟩, hentry, hsome⟩ := List.mem_filterMap.1 hc
  have hvalue : r.expr.ScopedIn Γ := he (field, r) hentry
  have hactual : (Expr.property var field).ScopedIn Γ := .inl hvar
  cases hmode : r.mode with
  | exact => simp [fieldCondition, hmode] at hsome
  | _ =>
    simp only [fieldCondition, hmode, Option.some.injEq] at hsome
    subst hsome
    exact .pair hactual hvalue

theorem scopedIn_setFields {fields : Fields} (hfields : fields.ScopedIn Γ) {var : String}
    (hvar : Γ.HasElement var) : ∀ item ∈ setFields var fields, item.ScopedIn Γ := by
  intro item hitem
  obtain ⟨entry, hentry, rfl⟩ := List.mem_map.1 hitem
  exact ⟨hvar, hfields entry hentry⟩

theorem scopedIn_setFirstSeen {var : String} (hvar : Γ.HasElement var) :
    ∀ item ∈ [setFirstSeen var], item.ScopedIn Γ :=
  List.forall_mem_singleton.2 ⟨hvar, trivial⟩

theorem scopedIn_stale {var : String} (hvar : Γ.HasElement var) : (stale var).ScopedIn Γ :=
  .pair hvar trivial

/-- To look for an endpoint binds its node. -/
theorem scopedIn_matchEndpoint {e : Endpoint} (he : e.matcher.ScopedIn Γ) {var : String}
    (hvar : var ∉ Γ.names) (optional : Bool) :
    (Clause.matching optional { start := endpointPattern var e }
      (endpointConditions var e)).ScopedIn Γ := by
  have hsub : Γ ⊆ Γ ++ [(var, .node)] := List.subset_append_left _ _
  have hnode : (var, .node) ∈ Γ ++ [(var, Kind.node)] :=
    List.mem_append_right _ (List.mem_singleton_self _)
  exact ⟨.node (scopedIn_endpointPattern he var) (Scope.newTo_singleton.2 hvar),
    scopedIn_endpointConditions (he.mono hsub) hnode⟩

/-- Rows come first. -/
theorem scopedIn_unwindRows : unwindRows.ScopedIn [] :=
  ⟨trivial, Scope.newTo_singleton.2 List.not_mem_nil⟩

/-- A link is made between two nodes that are there. -/
theorem scopedIn_mergeLink {left right : String} (hleft : (left, .node) ∈ Γ)
    (hright : (right, .node) ∈ Γ) (hr : "r" ∉ Γ.names) (rel : Relationship) :
    (mergeLink left rel right).ScopedIn Γ := by
  refine ⟨?_, .inr ?_, ?_⟩
  · exact .hop (scopedIn_bare hleft) (scopedIn_bare hright) (Scope.newTo_singleton.2 hr)
  · exact List.forall_mem_cons.2 ⟨rfl, List.forall_mem_singleton.2 rfl⟩
  · exact scopedIn_setFirstSeen (.inr (List.mem_append_right _ (List.mem_singleton_self _)))

/-- A plain `WITH` passes some of the variables on. -/
theorem scopedIn_pass {vars : List String} (h : ∀ x ∈ vars, x ∈ Γ.names) :
    (Clause.withVars vars [] none).ScopedIn Γ :=
  ⟨h, fun _ h => absurd h List.not_mem_nil, fun _ h => absurd h (Option.not_mem_none _)⟩

/-- What is deleted is kept by the `WITH` before. -/
theorem scopedIn_deleteWindow {var : String} (hvar : Γ.HasElement var) (detach : Bool) :
    clausesScopedIn Γ (deleteWindow detach var) := by
  have hkept : (Γ.keep [var]).HasElement var :=
    hvar.imp (fun h => Scope.mem_keep.2 ⟨h, List.mem_singleton_self var⟩)
      (fun h => Scope.mem_keep.2 ⟨h, List.mem_singleton_self var⟩)
  refine .cons ?_ rfl (.cons hkept rfl (.cons ?_ rfl .nil))
  · exact ⟨List.forall_mem_singleton.2 hvar.mem_names, fun _ h => absurd h List.not_mem_nil,
      fun e he => by cases he; trivial⟩
  · exact List.forall_mem_singleton.2 trivial

/-- A match, and the deletion of what it finds. -/
theorem scopedIn_sweep {path : Path} {conditions : List Condition} {var : String}
    (hpath : path.ScopedIn Γ) (hconditions : ∀ c ∈ conditions, c.ScopedIn (Γ ++ path.binds))
    (hvar : Scope.HasElement (Γ ++ path.binds) var) (detach : Bool) :
    clausesScopedIn Γ (.matching false path conditions :: deleteWindow detach var) :=
  .cons ⟨hpath, hconditions⟩ rfl (scopedIn_deleteWindow hvar detach)

end Plan

/-! ## Ingestion -/

/-- The scope of a row and its node. -/
def NodeSchema.rowScope : Scope := [(rowAlias, .row), ("i", .node)]

theorem NodeSchema.scopedIn_attach (rel : Relationship) :
    Imports (attach rel) ∧ clausesScopedIn rowScope (attach rel) := by
  refine ⟨trivial, ?_⟩
  -- the node that is looked for comes into scope, then the link to it
  refine .cons (Δ := rowScope) ?_ rfl <|
    .cons (Δ := rowScope ++ [("j", .node)]) ?_ rfl <|
    .cons (Δ := rowScope ++ [("j", .node)]) ?_ rfl <|
    .cons (Δ := rowScope ++ [("j", .node)] ++ [("r", .link)]) ?_ rfl <|
    .cons ?_ rfl .nil
  · exact scopedIn_pass (by decide)
  · exact scopedIn_matchEndpoint (Fields.scopedIn_of_row (by decide) _) (by decide) true
  · have hj : (Condition.isNotNull (.var "j")).ScopedIn (rowScope ++ [("j", .node)]) :=
      List.forall_mem_singleton.2 (Scope.mem_names.2 ⟨.node, by decide⟩)
    exact ⟨by decide, List.forall_mem_singleton.2 hj, fun _ h => absurd h (Option.not_mem_none _)⟩
  · exact scopedIn_mergeLink (by decide) (by decide) (by decide) rel
  · exact scopedIn_setFields (Fields.scopedIn_of_row (by decide) _) (.inr (by decide))

/-- The node of a row is found by what the row says. -/
theorem NodeSchema.scopedIn_identity (s : NodeSchema) (h : (rowAlias, .row) ∈ Γ) :
    NodePattern.ScopedIn Γ { var := some "i", labels := [s.label], props := s.identity } where
  values := by
    intro e he
    obtain ⟨prop, hprop, rfl⟩ := List.mem_map.1 he
    obtain ⟨r, -, rfl⟩ := List.mem_map.1 hprop
    exact r.scopedIn_of_row h
  reused := fun x hx => absurd hx (Option.not_mem_none x)

theorem NodeSchema.scopedIn_ingestion (s : NodeSchema) : s.ingestion.WellScoped := by
  have hrow : (rowAlias, .row) ∈ rowScope := by decide
  have hnode : ("i", .node) ∈ rowScope := by decide
  -- labels may be missing, but the scope is the same in either case
  have hlabels : clausesAfter rowScope
      (if s.extraLabels.isEmpty then [] else [.set [.labels "i" s.extraLabels]]) = rowScope := by
    split <;> rfl
  unfold Query.WellScoped ingestion
  rw [List.append_assoc, clausesScopedIn_append, clausesScopedIn_append]
  refine ⟨?writing, ?labels, ?links⟩
  case writing =>
    refine .cons (Δ := [(rowAlias, .row)]) scopedIn_unwindRows rfl <|
      .cons (Δ := rowScope) ⟨?_, .inl rfl, scopedIn_setFirstSeen (.inl hnode)⟩ rfl <|
      .cons (scopedIn_setFields (Fields.scopedIn_of_row hrow _) (.inl hnode)) rfl .nil
    exact .node (s.scopedIn_identity (by decide)) (Scope.newTo_singleton.2 (by decide))
  case labels =>
    split
    · exact .nil
    · exact .cons (List.forall_mem_singleton.2 hnode) rfl .nil
  case links =>
    show clausesScopedIn (clausesAfter rowScope _) _
    rw [hlabels]
    split
    · exact .nil
    · refine .cons (Δ := rowScope) (scopedIn_pass (by decide)) rfl (.cons ?_ rfl .nil)
      refine branchesScopedIn_iff.2 fun branch hbranch => ?_
      obtain ⟨rel, -, rfl⟩ := List.mem_map.1 hbranch
      exact scopedIn_attach rel

/-- A row finds its two nodes one after the other. -/
theorem Matchlink.scopedIn_ingestion (m : Matchlink) : m.ingestion.WellScoped := by
  refine .cons (Δ := [(rowAlias, .row)]) scopedIn_unwindRows rfl <|
    .cons (Δ := [(rowAlias, .row), ("src", .node)]) ?_ rfl <|
    .cons (Δ := [(rowAlias, .row), ("src", .node), ("tgt", .node)]) ?_ rfl <|
    .cons (Δ := [(rowAlias, .row), ("src", .node), ("tgt", .node), ("r", .link)]) ?_ rfl <|
    .cons ?_ rfl .nil
  · exact scopedIn_matchEndpoint (Fields.scopedIn_of_row (by decide) _) (by decide) false
  · exact scopedIn_matchEndpoint (Fields.scopedIn_of_row (by decide) _) (by decide) false
  · exact scopedIn_mergeLink (by decide) (by decide) (by decide) _
  · exact scopedIn_setFields (Fields.scopedIn_of_row (by decide) _) (.inr (by decide))

/-! ## Cleanup -/

namespace NodeSchema

section Owned

variable {sub : Relationship} (hsub : sub.target.matcher.ScopedIn [])
include hsub

theorem scopedIn_ownedPath (s : NodeSchema) (relVar : Option String)
    (hnew : (s.ownedPath sub relVar).binds.NewTo []) : (s.ownedPath sub relVar).ScopedIn [] :=
  .hop (scopedIn_labelled _ _) (scopedIn_endpointPattern hsub _) hnew

/-- The conditions on the owner, in any scope that has its node. -/
theorem scopedIn_ownerConditions (howner : ("owner", .node) ∈ Γ) :
    ∀ c ∈ endpointConditions "owner" sub.target, c.ScopedIn Γ :=
  scopedIn_endpointConditions (hsub.mono (List.nil_subset Γ)) howner

theorem scopedIn_cleanupOwnedNodes (s : NodeSchema) : (s.cleanupOwnedNodes sub).WellScoped := by
  let Δ : Scope := [("n", .node), ("owner", .node)]
  have hnew : Δ.NewTo [] := Scope.newTo_nil.2 (by decide)
  have hn : Δ.HasElement "n" := .inl (by decide)
  have howner : ("owner", .node) ∈ Δ := by decide
  exact scopedIn_sweep (s.scopedIn_ownedPath hsub none hnew) (List.forall_mem_cons.2
    ⟨scopedIn_stale hn, scopedIn_ownerConditions hsub howner⟩) hn true

theorem scopedIn_cleanupOwnerLinks (s : NodeSchema) : (s.cleanupOwnerLinks sub).WellScoped := by
  let Δ : Scope := [("n", .node), ("s", .link), ("owner", .node)]
  have hnew : Δ.NewTo [] := Scope.newTo_nil.2 (by decide)
  have hs : Δ.HasElement "s" := .inr (by decide)
  have howner : ("owner", .node) ∈ Δ := by decide
  exact scopedIn_sweep (s.scopedIn_ownedPath hsub (some "s") hnew) (List.forall_mem_cons.2
    ⟨scopedIn_stale hs, scopedIn_ownerConditions hsub howner⟩) hs false

/-- The second match goes on from the node of the first. -/
theorem scopedIn_cleanupOwnedLinks (s : NodeSchema) (rel : Relationship) :
    (s.cleanupOwnedLinks sub rel).WellScoped := by
  let Δ : Scope := [("n", .node), ("owner", .node)]
  have hnew : Δ.NewTo [] := Scope.newTo_nil.2 (by decide)
  have howner : ("owner", .node) ∈ Δ := by decide
  have hr : Scope.HasElement (Δ ++ [("r", .link)]) "r" := .inr (by decide)
  have hpath : (linkPath { var := some "n" } rel).ScopedIn Δ :=
    .hop (scopedIn_bare (by decide)) (scopedIn_labelled _ _) (Scope.newTo_singleton.2 (by decide))
  exact .cons (Δ := Δ)
    ⟨s.scopedIn_ownedPath hsub none hnew, scopedIn_ownerConditions hsub howner⟩ rfl
    (scopedIn_sweep hpath (List.forall_mem_singleton.2 (scopedIn_stale hr)) hr false)

end Owned

theorem scopedIn_cleanupAllNodes (s : NodeSchema) : s.cleanupAllNodes.WellScoped := by
  have hn : Scope.HasElement [("n", .node)] "n" := .inl (List.mem_singleton_self _)
  refine scopedIn_sweep ?_ (List.forall_mem_singleton.2 (scopedIn_stale hn)) hn true
  exact .node (scopedIn_labelled _ _) (Scope.newTo_singleton.2 List.not_mem_nil)

theorem scopedIn_cleanupAllLinks (s : NodeSchema) (rel : Relationship) :
    (s.cleanupAllLinks rel).WellScoped := by
  have hnew : Scope.NewTo [("n", .node), ("r", .link)] [] := Scope.newTo_nil.2 (by decide)
  have hr : Scope.HasElement [("n", .node), ("r", .link)] "r" := .inr (by decide)
  refine scopedIn_sweep ?_ (List.forall_mem_singleton.2 (scopedIn_stale hr)) hr false
  exact .hop (scopedIn_labelled _ _) (scopedIn_labelled _ _) hnew

/-- The check of the matcher of the owner is what keeps rows out of it. -/
theorem Built.scopedIn_cleanup {s : NodeSchema} (h : s.Built) :
    ∀ q ∈ s.cleanup, q.WellScoped := by
  intro q hq
  unfold cleanup at hq
  cases hscope : s.scope with
  | subResource sub =>
    -- the only queries that read a matcher, with nothing in scope yet
    have hsub : sub.target.matcher.ScopedIn [] :=
      Fields.scopedIn_of_parameters (h.owner_isParameter hscope)
    simp only [hscope, List.mem_cons, List.mem_map] at hq
    obtain rfl | rfl | ⟨rel, -, rfl⟩ := hq
    · exact s.scopedIn_cleanupOwnedNodes hsub
    · exact s.scopedIn_cleanupOwnerLinks hsub
    · exact s.scopedIn_cleanupOwnedLinks hsub rel
  | relationshipsOnly =>
    simp only [hscope, List.mem_map] at hq
    obtain ⟨rel, -, rfl⟩ := hq
    exact s.scopedIn_cleanupAllLinks rel
  | unscoped =>
    simp only [hscope, List.mem_cons, List.mem_map] at hq
    obtain rfl | ⟨rel, -, rfl⟩ := hq
    · exact s.scopedIn_cleanupAllNodes
    · exact s.scopedIn_cleanupAllLinks rel

end NodeSchema

theorem Matchlink.scopedIn_cleanup (m : Matchlink) : m.cleanup.WellScoped := by
  have hr : Scope.HasElement [("r", .link)] "r" := .inr (List.mem_singleton_self _)
  refine scopedIn_sweep ?_ ?_ hr false
  · exact .hop (scopedIn_labelled _ _) (scopedIn_labelled _ _)
      (Scope.newTo_singleton.2 List.not_mem_nil)
  · exact List.forall_mem_cons.2 ⟨scopedIn_stale hr,
      List.forall_mem_cons.2 ⟨.pair hr trivial, List.forall_mem_singleton.2 (.pair hr trivial)⟩⟩

theorem Schema.Built.scopedIn_cleanup {schema : Schema} (h : schema.Built) :
    ∀ q ∈ schema.cleanup, q.WellScoped := by
  cases schema with
  | node s => exact NodeSchema.Built.scopedIn_cleanup h
  | matchlink m => exact List.forall_mem_singleton.2 m.scopedIn_cleanup

/-- A sweep only reads, and deletes. -/
theorem Cypher.Sweep.unwinds_query (w : Sweep) : clausesUnwind w.query = false := by
  unfold Sweep.query
  induction w.reads with
  | nil => rfl
  | cons r rest ih => exact ih

/-! ## All queries of a schema -/

theorem Schema.scopedIn_ingestion (schema : Schema) : schema.ingestion.WellScoped := by
  cases schema with
  | node s => exact s.scopedIn_ingestion
  | matchlink m => exact m.scopedIn_ingestion

/-- A run of a query never comes to a clause, in a subquery or out of it, whose
    variables are not bound. -/
theorem Schema.Built.supplied {schema : Schema} (h : schema.Built) {q : Query}
    (hq : q = schema.ingestion ∨ q ∈ schema.cleanup) :
    Supplied q [Binding.empty] ∧
      ∀ before branches after, q = before ++ .call branches :: after → ∀ cx s p,
        clausesExec cx before { store := s, rows := [Binding.empty] } p →
          ∀ b ∈ p.rows, ∀ branch ∈ branches, Supplied branch [b] := by
  have hscoped : q.WellScoped := by
    rcases hq with rfl | hq
    · exact schema.scopedIn_ingestion
    · exact h.scopedIn_cleanup q hq
  exact hscoped.supplied

/-- Every query of a schema that has passed all checks reads only what is in
    scope, and binds nothing again.  Row fields are read of rows only, so no
    cleanup query reads any. -/
theorem compiled_queries_are_scoped {schema : Schema} (h : schema.Built) :
    schema.ingestion.WellScoped ∧
      ∀ q ∈ schema.cleanup, q.WellScoped ∧ q.fields = [] := by
  refine ⟨schema.scopedIn_ingestion, fun q hq => ?_⟩
  have hscoped := h.scopedIn_cleanup q hq
  rw [schema.cleanup_eq_sweeps] at hq
  obtain ⟨w, -, rfl⟩ := List.mem_map.1 hq
  exact ⟨hscoped, hscoped.fields_eq_nil w.unwinds_query⟩

/-- Hosts are written with fields of their rows, and cleaned up without. -/
theorem hosts_queries_are_scoped :
    (Schema.node Sample.hosts).Built ∧
      Sample.hosts.ingestion.fields = ["id", "service"] ∧ Sample.hosts.ingestion.WellScoped ∧
      Sample.hosts.cleanup.length = 3 ∧
      ∀ q ∈ Sample.hosts.cleanup, q.WellScoped ∧ q.fields = [] := by
  obtain ⟨hingestion, hcleanup⟩ := compiled_queries_are_scoped Sample.hosts_built
  exact ⟨Sample.hosts_built, by decide, hingestion, rfl, hcleanup⟩

end GraphSync
