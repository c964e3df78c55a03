import GraphSync.Proofs.Cleanup.Job
import GraphSync.Proofs.Lexing.Parameters
import GraphSync.Proofs.Run.References

/-! # What a query requires

    The parameters of a compiled query, as a set.  A name that is missing from
    it would let a run go ahead without a value, and a name too many would
    refuse a run that has all it needs.

    * An ingestion requires its rows, and the parameters that the references
      of its schema read.
    * A cleanup requires the tag of the run, the size of a window, and what
      keeps it within its scope: the names that find the owner, or the markers
      of a matchlink. -/

namespace GraphSync

open Cypher Plan

/-- `q.Requires names`: the parameters of a query are these names, in order and
    each of them once. -/
structure Cypher.Query.Requires (q : Query) (names : Set String) : Prop where
  sorted : q.parameters.Pairwise (· < ·)
  exact  : {name | name ∈ q.parameters} = names

theorem Cypher.Query.requires_iff {q : Query} {names : Set String} :
    q.Requires names ↔ ∀ name, name ∈ clauseParams q ↔ name ∈ names := by
  constructor
  · intro h name
    rw [← h.exact]
    exact mem_sortedNames.symm
  · intro h
    refine ⟨sortedNames_pairwise _, Set.ext fun name => ?_⟩
    rw [← h name]
    exact mem_sortedNames

/-- The names that references read from the parameters of the run. -/
def readNames (refs : List Reference) : Set String :=
  {name | ∃ r ∈ refs, r.isParameter = true ∧ r.name = name}

theorem mem_readNames {refs : List Reference} {name : String} :
    name ∈ readNames refs ↔ name ∈ parameterNames refs := by
  rw [mem_parameterNames]
  simp only [Reference.mem_params_expr]
  rfl

/-- The names that keep a cleanup within its scope.  All references of the
    matcher of an owner count. -/
def Schema.confiningNames : Schema → Set String
  | .node s => {name | ∃ sub ∈ s.subResource?, ∃ entry ∈ sub.target.matcher, entry.2.name = name}
  | .matchlink _ => {scopeLabelKey, scopeIdKey}

/-- The owner of an accepted schema is found by parameters only, so no name of
    its matcher is left out. -/
theorem NodeSchema.Built.mem_confiningNames {s : NodeSchema} (h : s.Built) {name : String} :
    name ∈ (Schema.node s).confiningNames ↔ name ∈ parameterNames s.ownerReferences := by
  constructor
  · rintro ⟨sub, hsub, entry, hentry, rfl⟩
    have hscope : s.scope = .subResource sub := by
      unfold subResource? at hsub
      split at hsub
      · next rel hrel =>
        cases hsub
        exact hrel
      · cases hsub
    exact h.mem_owner_names hscope hentry
  · intro hname
    obtain ⟨sub, hsub, hname⟩ := mem_parameterNames_flatMap.1 hname
    obtain ⟨r, hr, hreads⟩ := mem_parameterNames.1 hname
    obtain ⟨entry, hentry, rfl⟩ := List.mem_map.1 hr
    exact ⟨sub, Option.mem_toList.1 hsub, entry, hentry, (Reference.mem_params_expr.1 hreads).2⟩

/-- The queries of an accepted schema require the parameters that its
    references read, and no others but those that the compiler adds. -/
theorem required_names_are_read {schema : Schema} (h : schema.Built) :
    schema.ingestion.Requires ({rowsParam} ∪ readNames schema.references) ∧
      ∀ q ∈ schema.cleanup, q.Requires ({updateTagParam, limitParam} ∪ schema.confiningNames) := by
  refine ⟨Query.requires_iff.2 fun name => ?_, fun q hq => Query.requires_iff.2 fun name => ?_⟩
  · rw [Schema.mem_clauseParams_ingestion h, Set.mem_union, mem_readNames, Set.mem_singleton_iff]
  · rw [Set.mem_union, Set.mem_insert_iff, Set.mem_singleton_iff, or_assoc]
    cases schema with
    | node s => rw [NodeSchema.mem_clauseParams_cleanup hq, NodeSchema.Built.mem_confiningNames h]
    | matchlink m =>
      have hmarkers : name ∈ (Schema.matchlink m).confiningNames ↔
          name = scopeLabelKey ∨ name = scopeIdKey := Iff.rfl
      rw [List.mem_singleton.1 hq, m.clauseParams_cleanup, hmarkers]
      simp only [List.mem_cons, List.not_mem_nil, or_false]
      tauto

/-- Hosts are written with the account and the run, and cleaned up with the
    account and the tag. -/
theorem hosts_require_their_account :
    (Schema.node Sample.hosts).Built ∧
      Sample.hosts.ingestion.Requires {rowsParam, lastUpdatedKey, "ACCOUNT"} ∧
      Sample.hosts.cleanup.length = 3 ∧
      ∀ q ∈ Sample.hosts.cleanup, q.Requires {updateTagParam, limitParam, "ACCOUNT"} := by
  obtain ⟨hingestion, hcleanup⟩ := required_names_are_read Sample.hosts_built
  have hread : {rowsParam} ∪ readNames (Schema.node Sample.hosts).references =
      {rowsParam, lastUpdatedKey, "ACCOUNT"} := by
    ext name
    have hnames : parameterNames (Schema.node Sample.hosts).references =
        [lastUpdatedKey, "ACCOUNT", lastUpdatedKey, lastUpdatedKey] := by decide
    simp only [Set.mem_union, Set.mem_singleton_iff, mem_readNames, hnames, List.mem_cons,
      List.not_mem_nil, or_false, Set.mem_insert_iff]
    tauto
  have hscope : {updateTagParam, limitParam} ∪ (Schema.node Sample.hosts).confiningNames =
      {updateTagParam, limitParam, "ACCOUNT"} := by
    ext name
    rw [Set.mem_union, NodeSchema.Built.mem_confiningNames Sample.hosts_built]
    have hnames : parameterNames Sample.hosts.ownerReferences = ["ACCOUNT"] := by decide
    simp only [hnames, List.mem_singleton, Set.mem_insert_iff, Set.mem_singleton_iff, or_assoc]
  rw [hread] at hingestion
  rw [hscope] at hcleanup
  exact ⟨Sample.hosts_built, hingestion, rfl, hcleanup⟩

end GraphSync
