import GraphSync.Plan.Cleanup
import GraphSync.Proofs.Ingestion.Load
import Mathlib.Tactic.Tauto

/-! # Parameters and references

    A compiled query reads the parameters that the references of its schema
    name, and a few that the compiler adds: the rows of an ingestion, the tag
    and the window of a cleanup, and the scope markers of a matchlink's.  This
    is said here once for each kind of query, for names of any spelling.

    * `Schema.mem_clauseParams_ingestion`: the parameters of an ingestion.
    * `NodeSchema.mem_clauseParams_cleanup`, `Matchlink.mem_clauseParams_cleanup`:
      the parameters of a cleanup query. -/

namespace GraphSync

open Cypher Plan

/-! ## References of a schema -/

/-- The references of some fields. -/
def Fields.references (fields : Fields) : List Reference := fields.map (·.2)

/-- The references by which a relationship finds its target, and those that
    feed its properties. -/
def Relationship.references (rel : Relationship) : List Reference :=
  rel.target.matcher.references ++ rel.properties.references

/-- The references that the ingestion of a schema evaluates. -/
def Schema.references : Schema → List Reference
  | .node s => s.properties.references ++ s.relationships.flatMap Relationship.references
  | .matchlink m => m.source.matcher.references ++ m.relationship.references

/-- The references by which the owner is found, if there is one.  A cleanup
    evaluates no others. -/
def NodeSchema.ownerReferences (s : NodeSchema) : List Reference :=
  s.subResource?.toList.flatMap fun sub => sub.target.matcher.references

/-- The names that some references read from the parameters of the run. -/
def parameterNames (refs : List Reference) : List String :=
  (refs.filter Reference.isParameter).map Reference.name

/-- The parameters by which the statements of a schema tell one scope from
    another. -/
def Schema.scopeNames : Schema → List String
  | .node s => parameterNames s.ownerReferences
  | .matchlink _ => [scopeLabelKey, scopeIdKey]

theorem Reference.mem_params_expr {r : Reference} {name : String} :
    name ∈ r.expr.params ↔ r.isParameter = true ∧ r.name = name := by
  unfold expr isParameter
  cases r.origin with
  | row => simp [Expr.params]
  | parameter => simp [Expr.params, eq_comm]

/-- A name is read when the expression of some reference reads it. -/
theorem mem_parameterNames {refs : List Reference} {name : String} :
    name ∈ parameterNames refs ↔ ∃ r ∈ refs, name ∈ r.expr.params := by
  unfold parameterNames
  rw [List.mem_map]
  constructor
  · rintro ⟨r, hr, rfl⟩
    obtain ⟨hmem, hparam⟩ := List.mem_filter.1 hr
    exact ⟨r, hmem, Reference.mem_params_expr.2 ⟨hparam, rfl⟩⟩
  · rintro ⟨r, hr, hname⟩
    obtain ⟨hparam, rfl⟩ := Reference.mem_params_expr.1 hname
    exact ⟨r, List.mem_filter.2 ⟨hr, hparam⟩, rfl⟩

@[simp]
theorem parameterNames_nil : parameterNames [] = [] := rfl

theorem mem_parameterNames_append {refs more : List Reference} {name : String} :
    name ∈ parameterNames (refs ++ more) ↔
      name ∈ parameterNames refs ∨ name ∈ parameterNames more := by
  simp [parameterNames]

theorem mem_parameterNames_flatMap {α : Type} {l : List α} {refs : α → List Reference}
    {name : String} :
    name ∈ parameterNames (l.flatMap refs) ↔ ∃ a ∈ l, name ∈ parameterNames (refs a) := by
  constructor
  · intro h
    obtain ⟨r, hr, hname⟩ := mem_parameterNames.1 h
    obtain ⟨a, ha, hmem⟩ := List.mem_flatMap.1 hr
    exact ⟨a, ha, mem_parameterNames.2 ⟨r, hmem, hname⟩⟩
  · rintro ⟨a, ha, h⟩
    obtain ⟨r, hr, hname⟩ := mem_parameterNames.1 h
    exact mem_parameterNames.2 ⟨r, List.mem_flatMap.2 ⟨a, ha, hr⟩, hname⟩

/-- The owner is one of the relationships of its schema. -/
theorem NodeSchema.mem_references_of_owner {s : NodeSchema} {name : String}
    (h : name ∈ parameterNames s.ownerReferences) :
    name ∈ parameterNames (Schema.node s).references := by
  obtain ⟨sub, hsub, hname⟩ := mem_parameterNames_flatMap.1 h
  have hrel : sub ∈ s.relationships := List.mem_append_left _ hsub
  have hreads : name ∈ parameterNames sub.references := mem_parameterNames_append.2 (.inl hname)
  exact mem_parameterNames_append.2 (.inr (mem_parameterNames_flatMap.2 ⟨sub, hrel, hreads⟩))

/-- The owner of an accepted schema is found by the parameters that its
    references name. -/
theorem NodeSchema.Built.mem_owner_names {s : NodeSchema} (h : s.Built) {sub : Relationship}
    (hscope : s.scope = .subResource sub) {entry : String × Reference}
    (hmem : entry ∈ sub.target.matcher) : entry.2.name ∈ parameterNames s.ownerReferences := by
  have howner : s.ownerReferences = sub.target.matcher.references := by
    simp [ownerReferences, subResource?, hscope]
  rw [howner, mem_parameterNames]
  exact ⟨entry.2, List.mem_map_of_mem hmem,
    Reference.mem_params_expr.2 ⟨h.owner_isParameter hscope entry hmem, rfl⟩⟩

/-! ## Parts of queries -/

namespace Plan

variable {name : String}

/-- A field of a matcher is in the pattern or among the conditions. -/
theorem mem_params_field (var : String) (entry : String × Reference) :
    name ∈ entry.2.expr.params ↔
      (∃ p ∈ patternProp entry, name ∈ p.2.params) ∨
        ∃ c ∈ fieldCondition var entry, name ∈ c.params := by
  obtain ⟨field, r⟩ := entry
  cases hmode : r.mode with
  | exact => simp [patternProp, fieldCondition, hmode]
  | oneToMany => simp [patternProp, fieldCondition, hmode, Condition.params, Expr.params]
  | ignoreCase => simp [patternProp, fieldCondition, hmode, Condition.params, Expr.params]
  | fuzzy => simp [patternProp, fieldCondition, hmode, Condition.params, Expr.params]

theorem mem_params_endpoint {var : String} {e : Endpoint} :
    name ∈ (endpointPattern var e).params ++ (endpointConditions var e).flatMap Condition.params ↔
      name ∈ parameterNames e.matcher.references := by
  rw [mem_parameterNames, List.mem_append]
  constructor
  · rintro (h | h)
    · obtain ⟨p, hp, hname⟩ := List.mem_flatMap.1 h
      obtain ⟨entry, hmem, hentry⟩ := List.mem_filterMap.1 hp
      exact ⟨entry.2, List.mem_map_of_mem hmem,
        (mem_params_field var entry).2 (.inl ⟨p, hentry, hname⟩)⟩
    · obtain ⟨c, hc, hname⟩ := List.mem_flatMap.1 h
      obtain ⟨entry, hmem, hentry⟩ := List.mem_filterMap.1 hc
      exact ⟨entry.2, List.mem_map_of_mem hmem,
        (mem_params_field var entry).2 (.inr ⟨c, hentry, hname⟩)⟩
  · rintro ⟨r, hr, hname⟩
    obtain ⟨entry, hmem, rfl⟩ := List.mem_map.1 hr
    rcases (mem_params_field var entry).1 hname with ⟨p, hentry, hp⟩ | ⟨c, hentry, hc⟩
    · exact .inl (List.mem_flatMap.2 ⟨p, List.mem_filterMap.2 ⟨entry, hmem, hentry⟩, hp⟩)
    · exact .inr (List.mem_flatMap.2 ⟨c, List.mem_filterMap.2 ⟨entry, hmem, hentry⟩, hc⟩)

theorem mem_params_setFields {var : String} {fields : Fields} :
    name ∈ (setFields var fields).flatMap SetItem.params ↔
      name ∈ parameterNames fields.references := by
  rw [mem_parameterNames, List.mem_flatMap]
  simp only [setFields, Fields.references, List.mem_map]
  constructor
  · rintro ⟨i, ⟨entry, hmem, rfl⟩, hname⟩
    exact ⟨entry.2, ⟨entry, hmem, rfl⟩, hname⟩
  · rintro ⟨r, ⟨entry, hmem, rfl⟩, hname⟩
    exact ⟨_, ⟨entry, hmem, rfl⟩, hname⟩

theorem params_mergeLink (left : String) (rel : Relationship) (right : String) :
    (mergeLink left rel right).params = [] := rfl

theorem clauseParams_deleteWindow (detach : Bool) (var : String) :
    clauseParams (deleteWindow detach var) = [limitParam] := rfl

end Plan

theorem Cypher.clauseParams_append (l m : List Clause) :
    clauseParams (l ++ m) = clauseParams l ++ clauseParams m := by
  induction l with
  | nil => rfl
  | cons clause rest ih => rw [List.cons_append, clauseParams, clauseParams, ih, List.append_assoc]

theorem Cypher.branchParams_eq (branches : List (List Clause)) :
    branchParams branches = branches.flatMap clauseParams := by
  induction branches with
  | nil => rfl
  | cons branch rest ih => rw [branchParams, ih, List.flatMap_cons]

/-! ## Ingestion queries -/

namespace NodeSchema

variable {s : NodeSchema} {name : String}

theorem mem_params_attach {rel : Relationship} :
    name ∈ clauseParams (attach rel) ↔ name ∈ parameterNames rel.references := by
  have hparts : clauseParams (attach rel) =
      ((endpointPattern "j" rel.target).params ++
        (endpointConditions "j" rel.target).flatMap Condition.params) ++
      (setFields "r" rel.properties).flatMap SetItem.params := by
    simp [attach, clauseParams, Clause.params, Path.params, params_mergeLink, Condition.params,
      Expr.params]
  rw [hparts, List.mem_append, mem_params_endpoint, mem_params_setFields]
  exact mem_parameterNames_append.symm

/-- The identity is in the pattern of the node, and the other properties are
    set.  None is left out, since no key is repeated. -/
theorem mem_params_properties (h : Fields.keys s.properties |>.Nodup) :
    name ∈ s.identity.flatMap (·.2.params) ∨
        name ∈ parameterNames (Fields.references (s.properties.filter fun e => e.1 != idKey)) ↔
      name ∈ parameterNames s.properties.references := by
  have hidentity : name ∈ s.identity.flatMap (·.2.params) ↔
      ∃ r, (idKey, r) ∈ s.properties ∧ name ∈ r.expr.params := by
    simp [identity, ← Fields.get?_eq_some_iff h]
  rw [hidentity, mem_parameterNames, mem_parameterNames]
  simp only [Fields.references, List.mem_map, List.mem_filter]
  constructor
  · rintro (⟨r, hmem, hname⟩ | ⟨r, ⟨entry, ⟨hmem, -⟩, rfl⟩, hname⟩)
    · exact ⟨r, ⟨_, hmem, rfl⟩, hname⟩
    · exact ⟨entry.2, ⟨entry, hmem, rfl⟩, hname⟩
  · rintro ⟨_, ⟨⟨key, r⟩, hmem, rfl⟩, hname⟩
    by_cases hkey : key = idKey
    · subst hkey
      exact .inl ⟨r, hmem, hname⟩
    · exact .inr ⟨r, ⟨_, ⟨hmem, by simpa using hkey⟩, rfl⟩, hname⟩

theorem mem_clauseParams_ingestion (h : Fields.keys s.properties |>.Nodup) :
    name ∈ clauseParams s.ingestion ↔
      name = rowsParam ∨ name ∈ parameterNames (Schema.node s).references := by
  let rest : Fields := s.properties.filter fun entry => entry.1 != idKey
  have hhead : clauseParams [unwindRows,
      .merge { start := { var := some "i", labels := [s.label], props := s.identity } }
        [setFirstSeen "i"],
      .set (setFields "i" rest)] =
      rowsParam :: (s.identity.flatMap (·.2.params) ++
        (setFields "i" rest).flatMap SetItem.params) := by
    simp [clauseParams, Clause.params, unwindRows, Path.params, NodePattern.params, setFirstSeen,
      SetItem.params, Expr.params]
  have hlabels : clauseParams
      (if s.extraLabels.isEmpty then [] else [.set [.labels "i" s.extraLabels]]) = [] := by
    split <;> rfl
  have hcall : name ∈ clauseParams (if s.relationships.isEmpty then []
      else [.withVars ["i", rowAlias] [] none, .call (s.relationships.map attach)]) ↔
      name ∈ parameterNames (s.relationships.flatMap Relationship.references) := by
    rw [mem_parameterNames_flatMap]
    split
    · next hempty =>
      simp [List.isEmpty_iff.1 hempty, clauseParams]
    · simp [clauseParams, Clause.params, branchParams_eq, mem_params_attach]
  unfold ingestion Schema.references
  rw [clauseParams_append, clauseParams_append, hlabels, List.append_nil, List.mem_append, hcall,
    hhead, List.mem_cons, List.mem_append, mem_params_setFields, mem_params_properties h,
    mem_parameterNames_append, or_assoc]

end NodeSchema

theorem Matchlink.mem_clauseParams_ingestion {m : Matchlink} {name : String} :
    name ∈ clauseParams m.ingestion ↔
      name = rowsParam ∨ name ∈ parameterNames (Schema.matchlink m).references := by
  have hparts : clauseParams m.ingestion = rowsParam ::
      (((endpointPattern "src" m.source).params ++
          (endpointConditions "src" m.source).flatMap Condition.params) ++
        (((endpointPattern "tgt" m.relationship.target).params ++
            (endpointConditions "tgt" m.relationship.target).flatMap Condition.params) ++
          (setFields "r" m.relationship.properties).flatMap SetItem.params)) := by
    simp [Matchlink.ingestion, clauseParams, Clause.params, unwindRows, Path.params,
      params_mergeLink, Expr.params]
  have hrelationship : name ∈ parameterNames m.relationship.references ↔
      name ∈ parameterNames m.relationship.target.matcher.references ∨
        name ∈ parameterNames m.relationship.properties.references := mem_parameterNames_append
  have hschema : name ∈ parameterNames (Schema.matchlink m).references ↔
      name ∈ parameterNames m.source.matcher.references ∨
        name ∈ parameterNames m.relationship.references := mem_parameterNames_append
  rw [hparts, List.mem_cons, List.mem_append, mem_params_endpoint, List.mem_append,
    mem_params_endpoint, mem_params_setFields, hschema, hrelationship]

/-- An ingestion reads the rows, and what the references of its schema name. -/
theorem Schema.mem_clauseParams_ingestion {schema : Schema} (h : schema.Built) {name : String} :
    name ∈ clauseParams schema.ingestion ↔
      name = rowsParam ∨ name ∈ parameterNames schema.references := by
  cases schema with
  | node s =>
    obtain ⟨d, hd⟩ := h.draft
    exact NodeSchema.mem_clauseParams_ingestion (NodeSchema.Draft.recorded hd).nodup
  | matchlink m => exact Matchlink.mem_clauseParams_ingestion

/-! ## Cleanup queries -/

/-- A cleanup query reads the tag and the window, and what finds the owner. -/
theorem NodeSchema.mem_clauseParams_cleanup {s : NodeSchema} {q : Query} (hq : q ∈ s.cleanup)
    {name : String} :
    name ∈ clauseParams q ↔ name = updateTagParam ∨ name = limitParam ∨
      name ∈ parameterNames s.ownerReferences := by
  unfold cleanup at hq
  unfold ownerReferences subResource?
  cases hscope : s.scope with
  | subResource sub =>
    have hpath (v : Option String) : (s.ownedPath sub v).params =
        (endpointPattern "owner" sub.target).params := by
      simp [ownedPath, Path.params, NodePattern.params]
    have howner : name ∈ (endpointPattern "owner" sub.target).params ∨
        name ∈ (endpointConditions "owner" sub.target).flatMap Condition.params ↔
        name ∈ parameterNames sub.target.matcher.references := by
      rw [← List.mem_append, mem_params_endpoint]
    simp only [hscope, List.mem_cons, List.mem_map] at hq
    simp only [Option.toList_some, List.flatMap_singleton]
    rw [← howner]
    rcases hq with rfl | rfl | ⟨rel, -, rfl⟩
    · simp only [cleanupOwnedNodes, clauseParams, Clause.params, hpath, clauseParams_deleteWindow,
        List.flatMap_cons, stale, Condition.params, Expr.params, List.mem_append,
        List.mem_singleton, List.nil_append]
      tauto
    · simp only [cleanupOwnerLinks, clauseParams, Clause.params, hpath, clauseParams_deleteWindow,
        List.flatMap_cons, stale, Condition.params, Expr.params, List.mem_append,
        List.mem_singleton, List.nil_append]
      tauto
    · have hlink : (linkPath { var := some "n" } rel).params = [] := rfl
      simp only [cleanupOwnedLinks, clauseParams, Clause.params, hpath, hlink,
        clauseParams_deleteWindow, List.flatMap_cons, List.flatMap_nil, stale, Condition.params,
        Expr.params, List.mem_append, List.mem_singleton, List.nil_append, List.append_nil]
      tauto
  | relationshipsOnly =>
    simp only [hscope, List.mem_map] at hq
    obtain ⟨rel, -, rfl⟩ := hq
    show name ∈ [updateTagParam, limitParam] ↔ _
    simp
  | unscoped =>
    simp only [hscope, List.mem_cons, List.mem_map] at hq
    rcases hq with rfl | ⟨rel, -, rfl⟩
    · show name ∈ [updateTagParam, limitParam] ↔ _
      simp
    · show name ∈ [updateTagParam, limitParam] ↔ _
      simp

/-- The cleanup of a matchlink reads the tag, the markers and the window. -/
theorem Matchlink.clauseParams_cleanup (m : Matchlink) :
    clauseParams m.cleanup = [updateTagParam, scopeLabelKey, scopeIdKey, limitParam] := rfl

end GraphSync
