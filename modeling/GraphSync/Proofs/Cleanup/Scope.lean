import GraphSync.Proofs.Cleanup.Targets

/-! # Cleanup stays in scope

    One statement removes targets, which the schema allows to remove, and the
    links that go with them (`Schema.accounts_without`).  Removals add up
    (`Schema.Accounts.trans`), so this holds of whole sessions, finished or
    not: `Schema.HasJob.accounts`.

    What is removed is judged there under the parameters that are sent, among
    them the size of the windows.  It is the same under the parameters of the
    run (`cleanup_stays_in_scope`), unless the owner is found by that size
    (`resized_owner_is_out_of_scope`). -/

namespace GraphSync

open Cypher

variable {cx : Context} {g : Graph}

/-! ## Removals -/

/-- A link that has lost a node it ran from or to. -/
def Graph.LostEnd (before after : Graph) : Element → Prop
  | .node _ => False
  | .link l => before.source l ∉ after.nodes ∨ before.target l ∉ after.nodes

/-- What has gone from a graph may be removed, or is a link that has lost an
    end. -/
def Schema.Accounts (schema : Schema) (cx : Context) (before after : Graph) : Prop :=
  ∀ e, before.has e = true → after.has e = false →
    schema.MayRemove cx before e ∨ before.LostEnd after e

/-- To remove targets of a sweep is accounted for. -/
theorem Schema.accounts_without {schema : Schema} {w : Sweep} (hw : w ∈ schema.sweeps)
    {dead : List Element} (hdead : dead ⊆ w.query.targets cx g) :
    schema.Accounts cx g (g.without dead) := by
  intro e hbefore hafter
  by_cases he : e ∈ dead
  · exact .inl (schema.mayRemove_of_mem_targets hw (hdead he))
  · right
    cases e with
    | node n =>
      rw [Graph.has_node] at hbefore
      have hkept : (g.without dead).has (.node n) = true :=
        (Graph.has_node _ n).2 (Graph.mem_nodes_without.2 ⟨hbefore, he⟩)
      rw [hafter] at hkept
      cases hkept
    | link l =>
      -- the link itself was not a target, so one of its nodes was
      rw [Graph.has_link] at hbefore
      by_contra hends
      have hends : g.source l ∈ (g.without dead).nodes ∧ g.target l ∈ (g.without dead).nodes := by
        simpa [Graph.LostEnd] using hends
      have hkept : (g.without dead).has (.link l) = true :=
        (Graph.has_link _ l).2 (Graph.mem_links_without.2
          ⟨hbefore, he, (Graph.mem_nodes_without.1 hends.1).2,
            (Graph.mem_nodes_without.1 hends.2).2⟩)
      rw [hafter] at hkept
      cases hkept

/-- Two removals one after the other are accounted for together. -/
theorem Schema.Accounts.trans {schema : Schema} {g₁ g₂ g₃ : Graph} (h₁ : g₂.Within g₁)
    (h₂ : g₃.Within g₂) (h₁₂ : schema.Accounts cx g₁ g₂) (h₂₃ : schema.Accounts cx g₂ g₃) :
    schema.Accounts cx g₁ g₃ := by
  intro e hbefore hafter
  by_cases he : g₂.has e = true
  · rcases h₂₃ e he hafter with hmay | hlost
    · exact .inl (hmay.within h₁)
    · right
      cases e with
      | node n => exact hlost
      | link l =>
        unfold Graph.LostEnd at hlost ⊢
        rw [← h₁.source, ← h₁.target]
        exact hlost
  · rcases h₁₂ e hbefore (Bool.eq_false_iff.2 he) with hmay | hlost
    · exact .inl hmay
    · right
      cases e with
      | node n => exact hlost
      | link l => exact hlost.imp (fun h hm => h (h₂.nodes hm)) (fun h hm => h (h₂.nodes hm))

/-! ## Sessions -/

/-- At every point of a cleanup, whatever its windows and however it ended,
    the graph is the one at the beginning less some elements, which were
    removed in the scope of the parameters that were sent. -/
theorem Schema.HasJob.accounts {ε : Type} {schema : Schema} {job : CleanupJob}
    (hjob : schema.HasJob job) (o : SyncOptions) (lower : String → String) {s s' : Store}
    {replies : List (Reply ε)} (hs : Session lower (job.tasks o) s replies s') :
    s'.graph.Within s.graph ∧ schema.Accounts (job.context o lower) s.graph s'.graph := by
  let I : Store → Prop := fun s₁ =>
    s₁.graph.Within s.graph ∧ schema.Accounts (job.context o lower) s.graph s₁.graph
  have hstep : ∀ t ∈ job.tasks o, ∀ s₁ count s₂, t.Answers lower s₁ count s₂ → I s₁ → I s₂ := by
    intro t ht s₁ count s₂ hanswers ⟨hwithin, haccounts⟩
    have hwithin' := hjob.within ht hanswers
    obtain ⟨w, hw, rfl⟩ := hjob.exists_sweep ht
    obtain ⟨dead, hsub, -, rfl, -⟩ := Schema.HasJob.answers hanswers
    exact ⟨hwithin'.trans hwithin,
      haccounts.trans hwithin hwithin' (schema.accounts_without hw hsub.subset)⟩
  have hstart : I s := by
    refine ⟨Graph.Within.refl _, fun e hbefore hafter => ?_⟩
    rw [hbefore] at hafter
    cases hafter
  exact hs.invariant hstep hstart

/-! ## The parameters of the run -/

/-- What a job was given to tell what it may remove.  The size of the windows
    is none of it. -/
def CleanupJob.given (job : CleanupJob) (lower : String → String) : Context where
  params := job.params
  now := 0
  lower := lower

/-- Unless the scope is told by the size of the windows, the statements read
    what the job was given. -/
theorem CleanupJob.agrees {schema : Schema} (job : CleanupJob) (o : SyncOptions)
    (lower : String → String) (hfree : limitParam ∉ schema.scopeNames) :
    schema.Agrees (job.context o lower) (job.given lower) where
  lower := rfl
  tag := (job.value_context o lower (by decide)).symm
  scope := by
    intro name hname
    have hne : name ≠ limitParam := fun heq => hfree (heq ▸ hname)
    exact (job.value_context o lower hne).symm

/-- At every point of a cleanup, whatever its windows and however it ended,
    the graph is the one at the beginning less some elements: elements that
    the cleanup of the schema may remove with the parameters of the run, and
    links that went with a node. -/
theorem cleanup_stays_in_scope {ε : Type} {schema : Schema} {job : CleanupJob}
    (hjob : schema.HasJob job) (hfree : limitParam ∉ schema.scopeNames) (o : SyncOptions)
    (lower : String → String) {s s' : Store} {replies : List (Reply ε)}
    (hs : Session lower (job.tasks o) s replies s') :
    s'.graph.Within s.graph ∧
      ∀ e, s.graph.has e = true → s'.graph.has e = false →
        schema.MayRemove (job.given lower) s.graph e ∨ s.graph.LostEnd s'.graph e := by
  obtain ⟨hwithin, haccounts⟩ := hjob.accounts o lower hs
  refine ⟨hwithin, ?_⟩
  intro e hbefore hafter
  exact (haccounts e hbefore hafter).imp_left fun hmay => hmay.agree (job.agrees o lower hfree)

/-- The cleanup of the sample takes the stale host of the account and leaves
    that of the other, all in scope. -/
theorem sample_stays_in_scope :
    let s : Store := { graph := Sample.graph, written := [] }
    let s' := ((Database.eager id).follow 3 0 (Sample.job.tasks {}) s).2
    limitParam ∉ (Schema.node Sample.hosts).scopeNames ∧
      s'.graph.nodes = [0, 1, 3, 4] ∧ s'.graph.links = [1, 2] ∧ s'.graph.Within s.graph ∧
      ∀ e, s.graph.has e = true → s'.graph.has e = false →
        (Schema.node Sample.hosts).MayRemove (Sample.job.given id) s.graph e ∨
          s.graph.LostEnd s'.graph e := by
  intro s s'
  have hfree : limitParam ∉ (Schema.node Sample.hosts).scopeNames := by decide
  have hsession : Session (ε := String) id (Sample.job.tasks {}) s
      (((Database.eager id).follow 3 0 (Sample.job.tasks {}) s).1.map .ok) s' :=
    Database.follow_session (Database.eager_faithful Sample.hasJob {} (by decide) id _)
      (fun t ht s count s' h => Sample.hasJob.within ht h) 3 0 (Graph.Within.refl s.graph)
  exact ⟨hfree, by decide, by decide,
    cleanup_stays_in_scope Sample.hasJob hfree {} id hsession⟩

namespace Sample

/-- Hosts of an account that is found by the parameter which sizes the windows
    of a cleanup. -/
def resizedHosts : NodeSchema where
  label := "Host"
  properties := [(idKey, .row "id"), (lastUpdatedKey, .param lastUpdatedKey)]
  extraLabels := []
  scope := .subResource
    { label := "RESOURCE", direction := .inward
      target := { label := "Account", matcher := [(idKey, .param limitParam)] }
      properties := [(lastUpdatedKey, .param lastUpdatedKey)], source := none }
  others := []

theorem resizedHosts_built : (Schema.node resizedHosts).Built := by
  refine ⟨⟨{ label := "Host", properties := resizedHosts.properties,
             subResource := resizedHosts.subResource? }, rfl⟩, ?_⟩
  intro rel hrel
  refine ⟨{ label := rel.label, direction := rel.direction, target := some rel.target,
            properties := rel.properties, source := rel.source }, ?_⟩
  rw [List.mem_singleton.1 hrel]
  rfl

/-- The cleanup of the second run, which may name an account or not. -/
def resizedJob (account : Option Json) : CleanupJob where
  label := "Host"
  queries := resizedHosts.cleanup
  params := account.elim (Parameters.forRun 2) ((Parameters.forRun 2).insert limitParam)

theorem resizedHosts_hasJob (account : Option Json) :
    (Schema.node resizedHosts).HasJob (resizedJob account) := by
  refine ⟨(resizedJob account).params, CleanupJob.ofNodeSchema_eq_ok ?_⟩
  have hreads : ∀ q ∈ resizedHosts.cleanup, ∀ name ∈ clauseParams q,
      name = limitParam ∨ name = updateTagParam := by decide
  intro q hq name hname
  refine (hreads q hq name hname).imp_right ?_
  rintro rfl
  cases account with
  | none => rfl
  | some v =>
    show (((Parameters.forRun 2).insert limitParam v).find? updateTagParam).isSome = true
    rw [Dictionary.find?_insert_of_ne _ (by decide)]
    rfl

theorem pair_nodup : [0, 1].Nodup := by decide

/-- The account 100, with a host that the first run has seen. -/
def resizedGraph : Graph where
  nodes := [0, 1]
  links := [3]
  labels n := if n = 0 then {"Account"} else {"Host"}
  type _ := "RESOURCE"
  source _ := 0
  target _ := 1
  prop e key :=
    match e, key with
    | .node 0, "id" => .ofInt64 100
    | .node 1, "lastupdated" | .link _, "lastupdated" => .ofInt64 1
    | _, _ => .null
  nodes_nodup := pair_nodup
  links_nodup := List.nodup_singleton 3
  ends_mem := by decide

end Sample

/-- A schema that finds its owner by the size of the windows is accepted, and
    so is a job for it, whether the run names an account or not.  With windows
    of 100 the job removes the host of the account 100, which is none that the
    run has named. -/
theorem resized_owner_is_out_of_scope :
    (Schema.node Sample.resizedHosts).Built ∧
      ∀ account ∈ [none, some (.string "a")],
        let job := Sample.resizedJob account
        let s : Store := { graph := Sample.resizedGraph, written := [] }
        (Schema.node Sample.resizedHosts).HasJob job ∧
          ∃ s', ∃ replies : List (Reply String), Session id (job.tasks {}) s replies s' ∧
            s.graph.has (.node 1) = true ∧ s'.graph.has (.node 1) = false ∧
            ¬ (Schema.node Sample.resizedHosts).MayRemove (job.given id) s.graph (.node 1) ∧
            ¬ s.graph.LostEnd s'.graph (.node 1) := by
  refine ⟨Sample.resizedHosts_built, ?_⟩
  intro account haccount job s
  have hjob : (Schema.node Sample.resizedHosts).HasJob job := Sample.resizedHosts_hasJob account
  have hgone : ((Database.eager id).follow 1 0 (job.tasks {}) s).2.graph.has (.node 1) = false := by
    rcases List.mem_pair.1 haccount with rfl | rfl
    · decide
    · decide
  have hsession : Session (ε := String) id (job.tasks {}) s
      (((Database.eager id).follow 1 0 (job.tasks {}) s).1.map .ok)
      ((Database.eager id).follow 1 0 (job.tasks {}) s).2 :=
    Database.follow_session (Database.eager_faithful hjob {} (by decide) id _)
      (fun t ht s count s' h => hjob.within ht h) 1 0 (Graph.Within.refl s.graph)
  refine ⟨hjob, _, _, hsession, by decide, hgone, ?_, id⟩
  rintro ⟨-, ⟨l, owner, -, hjoins, hselects⟩, -⟩
  have howner : 0 = owner := hjoins.2.2.1
  subst howner
  -- the id of the only account is not what the run has named
  have hid := hselects.fields (idKey, .param limitParam) List.mem_cons_self
  rcases List.mem_pair.1 haccount with rfl | rfl
  · exact absurd hid (by decide)
  · exact absurd hid (by decide)

end GraphSync
