import GraphSync.Plan.Cleanup
import GraphSync.Plan.Ingestion
import GraphSync.Proofs.Schema.Accepted
import GraphSync.Proofs.Scoping.Rules

/-! # Lookups

    What a query looks up in the graph: labels of nodes with the keys whose
    values it compares.  A pattern compares the keys of its property map.  A
    `WHERE` compares what its conditions read of variables, and the labels of a
    variable are those of the patterns that have bound it, as far back as no
    `WITH` has dropped it.

    `looksUp_ingestion` and `looks_of_cleanup` say what the compiled queries of
    a schema look up: the identity of its nodes, the run that wrote them, and
    the fields of its matchers. -/

namespace GraphSync.Cypher

/-! ## What a query looks up -/

/-- Variables with the labels of the patterns that bound them. -/
abbrev Labelling := List (String × String)

def NodePattern.labelling (n : NodePattern) : Labelling :=
  n.var.toList.flatMap fun v => n.labels.map fun label => (v, label)

def Path.labelling (p : Path) : Labelling := p.nodes.flatMap NodePattern.labelling

/-- The properties of variables that an expression reads. -/
def Expr.properties : Expr → List (String × String)
  | .property v key => [(v, key)]
  | .toLower e => e.properties
  | _ => []

def Condition.properties (c : Condition) : List (String × String) :=
  c.operands.flatMap Expr.properties

namespace Clause

/-- The path that a clause finds or makes. -/
@[simp] def path? : Clause → Option Path
  | .matching _ path _ | .merge path _ => some path
  | _ => none

/-- The conditions of the `WHERE` of a clause. -/
@[simp] def conditions : Clause → List Condition
  | .matching _ _ conditions | .withVars _ conditions _ => conditions
  | _ => []

@[simp] def branches : Clause → List Query
  | .call branches => branches
  | _ => []

/-- The labels of variables in the `WHERE` of a clause and after it. -/
@[simp] def labelling (Γ : Labelling) : Clause → Labelling
  | .matching _ path _ | .merge path _ => Γ ++ path.labelling
  | .withVars vars _ _ => Γ.filter fun entry => entry.1 ∈ vars
  | _ => Γ

end Clause

/-- `n.Tests label key`: the pattern has the label, and the key in its property
    map. -/
def NodePattern.Tests (n : NodePattern) (label key : String) : Prop :=
  label ∈ n.labels ∧ key ∈ n.props.map (·.1)

def Path.Tests (p : Path) (label key : String) : Prop := ∃ n ∈ p.nodes, n.Tests label key

/-- `Γ.Tests conditions label key`: a condition reads the key of a variable
    with the label. -/
def Labelling.Tests (Γ : Labelling) (conditions : List Condition) (label key : String) : Prop :=
  ∃ v, (v, label) ∈ Γ ∧ ∃ c ∈ conditions, (v, key) ∈ c.properties

/-- `LooksUp label key Γ q`: where variables have the labels of `Γ`, the clauses
    compare the key of nodes with the label. -/
inductive LooksUp (label key : String) : Labelling → Query → Prop where
  | pattern {Γ : Labelling} {c : Clause} {path : Path} {rest : Query} :
      path ∈ c.path? → path.Tests label key → LooksUp label key Γ (c :: rest)
  | condition {Γ : Labelling} {c : Clause} {rest : Query} :
      (c.labelling Γ).Tests c.conditions label key → LooksUp label key Γ (c :: rest)
  | branch {Γ : Labelling} {c : Clause} {branch rest : Query} :
      branch ∈ c.branches → LooksUp label key Γ branch → LooksUp label key Γ (c :: rest)
  | later {Γ : Labelling} {c : Clause} {rest : Query} :
      LooksUp label key (c.labelling Γ) rest → LooksUp label key Γ (c :: rest)

/-- `q.LooksUp label key`: the query compares the key of nodes with the label. -/
def Query.LooksUp (q : Query) (label key : String) : Prop := Cypher.LooksUp label key [] q

section LooksUp

variable {label key : String} {Γ : Labelling} {rest : Query}

@[simp] theorem not_looksUp_nil : ¬LooksUp label key Γ [] := by
  rintro ⟨⟩

@[simp] theorem looksUp_cons {c : Clause} : LooksUp label key Γ (c :: rest) ↔
    (∃ path ∈ c.path?, path.Tests label key) ∨ (c.labelling Γ).Tests c.conditions label key ∨
      (∃ branch ∈ c.branches, LooksUp label key Γ branch) ∨
      LooksUp label key (c.labelling Γ) rest := by
  constructor
  · rintro (⟨hpath, htests⟩ | htests | ⟨hbranch, hlooks⟩ | hlooks)
    · exact .inl ⟨_, hpath, htests⟩
    · exact .inr (.inl htests)
    · exact .inr (.inr (.inl ⟨_, hbranch, hlooks⟩))
    · exact .inr (.inr (.inr hlooks))
  · rintro (⟨path, hpath, htests⟩ | htests | ⟨branch, hbranch, hlooks⟩ | hlooks)
    · exact .pattern hpath htests
    · exact .condition htests
    · exact .branch hbranch hlooks
    · exact .later hlooks

@[simp] theorem Labelling.not_tests_nil : ¬Γ.Tests [] label key := by
  simp [Labelling.Tests]

@[simp] theorem Labelling.tests_cons {c : Condition} {conditions : List Condition} :
    Γ.Tests (c :: conditions) label key ↔
      (∃ v, (v, label) ∈ Γ ∧ (v, key) ∈ c.properties) ∨ Γ.Tests conditions label key := by
  simp only [Labelling.Tests, List.mem_cons, exists_eq_or_imp, and_or_left, exists_or]

@[simp] theorem NodePattern.tests_mk {v : Option String} {labels : List String}
    {props : List (String × Expr)} :
    (NodePattern.mk v labels props).Tests label key ↔
      label ∈ labels ∧ key ∈ props.map (·.1) := Iff.rfl

@[simp] theorem NodePattern.labelling_mk {v : Option String} {labels : List String}
    {props : List (String × Expr)} :
    (NodePattern.mk v labels props).labelling =
      v.toList.flatMap fun v => labels.map fun label => (v, label) := rfl

@[simp] theorem Path.tests_mk {n : NodePattern} {hops : List (RelPattern × NodePattern)} :
    (Path.mk n hops).Tests label key ↔
      n.Tests label key ∨ ∃ hop ∈ hops, hop.2.Tests label key := by
  simp only [Path.Tests, Path.nodes, List.mem_cons, List.mem_map, exists_eq_or_imp,
    exists_exists_and_eq_and]

@[simp] theorem Path.labelling_mk {n : NodePattern} {hops : List (RelPattern × NodePattern)} :
    (Path.mk n hops).labelling = n.labelling ++ hops.flatMap fun hop => hop.2.labelling := by
  simp [Path.labelling, Path.nodes, List.flatMap_map]

end LooksUp

end GraphSync.Cypher

namespace GraphSync

open Cypher Plan

/-! ## Matchers -/

@[simp] theorem Reference.properties_expr (r : Reference) : r.expr.properties = [] := by
  unfold expr
  split <;> rfl

namespace Plan

@[simp] theorem labelling_endpointPattern {v : String} {e : Endpoint} :
    (endpointPattern v e).labelling = [(v, e.label)] := rfl

/-- The pattern compares the exact fields of a matcher. -/
@[simp] theorem tests_endpointPattern {v label key : String} {e : Endpoint} :
    (endpointPattern v e).Tests label key ↔
      label = e.label ∧ ∃ r, (key, r) ∈ e.matcher ∧ r.mode = .exact := by
  refine and_congr List.mem_singleton ?_
  unfold endpointPattern
  simp only [List.mem_map, List.mem_filterMap]
  constructor
  · rintro ⟨prop, ⟨⟨field, ⟨name, origin, mode, extraIndex⟩⟩, hentry, hmade⟩, rfl⟩
    cases mode <;> cases hmade
    exact ⟨_, hentry, rfl⟩
  · rintro ⟨r, hentry, hmode⟩
    refine ⟨(key, r.expr), ⟨(key, r), hentry, ?_⟩, rfl⟩
    simp only [patternProp, hmode]

theorem properties_fieldCondition (v field : String) (r : Reference) :
    ((fieldCondition v (field, r)).map Condition.properties) =
      if r.mode = .exact then none else some [(v, field)] := by
  obtain ⟨name, origin, mode, extraIndex⟩ := r
  cases mode <;>
    simp [fieldCondition, Condition.properties, Condition.operands, Expr.properties]

theorem exists_endpointConditions {v x key : String} {e : Endpoint} :
    (∃ c ∈ endpointConditions v e, (x, key) ∈ c.properties) ↔
      x = v ∧ ∃ r, (key, r) ∈ e.matcher ∧ r.mode ≠ .exact := by
  unfold endpointConditions
  constructor
  · rintro ⟨c, hc, hread⟩
    obtain ⟨⟨field, r⟩, hentry, hmade⟩ := List.mem_filterMap.1 hc
    have hproperties := properties_fieldCondition v field r
    rw [hmade, Option.map_some] at hproperties
    by_cases hmode : r.mode = .exact
    · rw [if_pos hmode] at hproperties
      cases hproperties
    rw [if_neg hmode] at hproperties
    rw [Option.some.inj hproperties, List.mem_singleton, Prod.mk.injEq] at hread
    obtain ⟨rfl, rfl⟩ := hread
    exact ⟨rfl, r, hentry, hmode⟩
  · rintro ⟨rfl, r, hentry, hmode⟩
    have hproperties := properties_fieldCondition x key r
    rw [if_neg hmode, Option.map_eq_some_iff] at hproperties
    obtain ⟨c, hmade, hc⟩ := hproperties
    exact ⟨c, List.mem_filterMap.2 ⟨(key, r), hentry, hmade⟩, by simp [hc]⟩

/-- The conditions compare the other fields. -/
@[simp] theorem tests_endpointConditions {v label key : String} {e : Endpoint} {Γ : Labelling} :
    Γ.Tests (endpointConditions v e) label key ↔
      (v, label) ∈ Γ ∧ ∃ r, (key, r) ∈ e.matcher ∧ r.mode ≠ .exact := by
  unfold Labelling.Tests
  simp only [exists_endpointConditions]
  constructor
  · rintro ⟨x, hx, rfl, hfield⟩
    exact ⟨hx, hfield⟩
  · rintro ⟨hv, hfield⟩
    exact ⟨v, hv, rfl, hfield⟩

@[simp] theorem properties_stale {v : String} :
    (stale v).properties = [(v, lastUpdatedKey)] := rfl

@[simp] theorem not_looksUp_deleteWindow {label key v : String} {detach : Bool} {Γ : Labelling} :
    ¬Cypher.LooksUp label key Γ (deleteWindow detach v) := by
  simp [deleteWindow]

end Plan

/-- `e.Looks label key`: the matcher of an endpoint compares the key. -/
def Endpoint.Looks (e : Endpoint) (label key : String) : Prop :=
  label = e.label ∧ key ∈ e.matcher.keys

/-- Pattern and conditions together compare every field. -/
theorem Endpoint.looks_iff {e : Endpoint} {label key : String} : e.Looks label key ↔
    (label = e.label ∧ ∃ r, (key, r) ∈ e.matcher ∧ r.mode = .exact) ∨
      (label = e.label ∧ ∃ r, (key, r) ∈ e.matcher ∧ r.mode ≠ .exact) := by
  have hfields : key ∈ e.matcher.keys ↔ ∃ r, (key, r) ∈ e.matcher := by
    simp [Fields.keys]
  rw [← and_or_left, ← exists_or]
  simp only [Looks, hfields, ← and_or_left, em, and_true, ne_eq]

/-! ## Ingestion -/

namespace NodeSchema

variable {s : NodeSchema} {label key : String}

theorem looksUp_attach {rel : Relationship} {Γ : Labelling} (hfresh : ∀ l, ("j", l) ∉ Γ) :
    Cypher.LooksUp label key Γ (attach rel) ↔ rel.target.Looks label key := by
  rw [Endpoint.looks_iff]
  simp [attach, hfresh, mergeLink, Condition.properties, Condition.operands, Expr.properties]

theorem mem_identity : key ∈ s.identity.map (·.1) ↔ key = idKey ∧ idKey ∈ s.properties.keys := by
  rw [← Fields.has_iff, Fields.has]
  cases hid : s.properties.get? idKey <;> simp [identity, hid]

/-- An ingestion looks for the node of each row, and for its targets. -/
theorem looksUp_ingestion : s.ingestion.LooksUp label key ↔
    (label = s.label ∧ key = idKey ∧ idKey ∈ s.properties.keys) ∨
      ∃ rel ∈ s.relationships, rel.target.Looks label key := by
  have hrelationships : (s.relationships.isEmpty = true) → s.relationships = [] :=
    List.isEmpty_iff.1
  unfold Query.LooksUp ingestion
  by_cases hextra : s.extraLabels.isEmpty <;> by_cases hrel : s.relationships.isEmpty <;>
    simp [hextra, hrel, unwindRows, mem_identity, looksUp_attach]
  all_goals simp [hrelationships hrel]

end NodeSchema

theorem Matchlink.looksUp_ingestion {m : Matchlink} {label key : String} :
    m.ingestion.LooksUp label key ↔
      m.source.Looks label key ∨ m.relationship.target.Looks label key := by
  rw [Endpoint.looks_iff, Endpoint.looks_iff]
  simp [Query.LooksUp, ingestion, unwindRows, mergeLink, or_assoc]

/-! ## Cleanup -/

namespace NodeSchema

variable {s : NodeSchema} {sub rel : Relationship} {label key : String}

theorem looksUp_cleanupOwnedNodes : (s.cleanupOwnedNodes sub).LooksUp label key ↔
    (label = s.label ∧ key = lastUpdatedKey) ∨ sub.target.Looks label key := by
  rw [Endpoint.looks_iff, or_left_comm]
  simp [Query.LooksUp, cleanupOwnedNodes, ownedPath]

theorem looksUp_cleanupOwnerLinks :
    (s.cleanupOwnerLinks sub).LooksUp label key ↔ sub.target.Looks label key := by
  rw [Endpoint.looks_iff]
  simp [Query.LooksUp, cleanupOwnerLinks, ownedPath]

theorem looksUp_cleanupOwnedLinks :
    (s.cleanupOwnedLinks sub rel).LooksUp label key ↔ sub.target.Looks label key := by
  rw [Endpoint.looks_iff]
  simp [Query.LooksUp, cleanupOwnedLinks, ownedPath, linkPath]

theorem looksUp_cleanupAllNodes :
    s.cleanupAllNodes.LooksUp label key ↔ label = s.label ∧ key = lastUpdatedKey := by
  simp [Query.LooksUp, cleanupAllNodes]

theorem not_looksUp_cleanupAllLinks : ¬(s.cleanupAllLinks rel).LooksUp label key := by
  simp [Query.LooksUp, cleanupAllLinks, linkPath]

/-- A cleanup looks for nodes by the run that wrote them, and for the owner. -/
theorem looks_of_cleanup {q : Query} (hq : q ∈ s.cleanup) (h : q.LooksUp label key) :
    (label = s.label ∧ key = lastUpdatedKey) ∨
      ∃ sub ∈ s.subResource?, sub.target.Looks label key := by
  unfold cleanup at hq
  unfold subResource?
  cases hscope : s.scope with
  | subResource sub =>
    rw [hscope] at hq
    simp only [List.mem_cons, List.mem_map] at hq
    obtain rfl | rfl | ⟨rel, -, rfl⟩ := hq
    · exact (looksUp_cleanupOwnedNodes.1 h).imp_right fun h => ⟨sub, rfl, h⟩
    · exact .inr ⟨sub, rfl, looksUp_cleanupOwnerLinks.1 h⟩
    · exact .inr ⟨sub, rfl, looksUp_cleanupOwnedLinks.1 h⟩
  | relationshipsOnly =>
    rw [hscope] at hq
    obtain ⟨rel, -, rfl⟩ := List.mem_map.1 hq
    exact absurd h not_looksUp_cleanupAllLinks
  | unscoped =>
    rw [hscope] at hq
    simp only [List.mem_cons, List.mem_map] at hq
    obtain rfl | ⟨rel, -, rfl⟩ := hq
    · exact .inl (looksUp_cleanupAllNodes.1 h)
    · exact absurd h not_looksUp_cleanupAllLinks

end NodeSchema

theorem Matchlink.not_looksUp_cleanup {m : Matchlink} {label key : String} :
    ¬m.cleanup.LooksUp label key := by
  simp [Query.LooksUp, cleanup]

end GraphSync
