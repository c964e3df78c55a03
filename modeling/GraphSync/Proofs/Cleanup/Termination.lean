import GraphSync.Proofs.Cleanup.Targets

/-! # Cleanup comes to an end and leaves nothing

    A cleanup statement is sent until it deletes less than a window.  Nothing
    bounds the number of windows but the graph itself: a full window removes
    an element, and a graph only has so many.

    A statement that is over has no targets left, and since all later
    statements only remove elements, it finds none again.

    * `Schema.HasJob.cleared` and `Schema.HasJob.size_lt` are the two sides of
      one window.
    * `cleanup_ends_clean` is the main result, for any database that does what
      the statements say. -/

namespace GraphSync

open Cypher

namespace Schema.HasJob

variable {schema : Schema} {job : CleanupJob} {o : SyncOptions} {lower : String → String}
  {t : Task} {s s' : Store} {count : Int64}

/-! ## One window -/

/-- A window removes no more of the targets than were asked for. -/
theorem window_bound {w : Sweep} (h : (job.task o w.query).Answers lower s count s') :
    ∃ dead, dead ⊆ w.query.targets (job.context o lower) s.graph ∧
      dead.length ≤ max 1 o.cleanupWindow.toNat ∧ s'.graph = s.graph.without dead := by
  obtain ⟨dead, hsub, hlen, rfl, -⟩ := answers h
  refine ⟨dead, hsub.subset, ?_, rfl⟩
  rw [hlen, o.window_toNat]
  exact Nat.min_le_left _ _

/-- A sweep that is over matches nothing any more. -/
theorem cleared {w : Sweep} (h : (job.task o w.query).Answers lower s count s')
    (hover : (job.task o w.query).stage.isOver count = true) :
    w.rows (job.context o lower) s'.graph = [] := by
  obtain ⟨dead, hsub, hlen, rfl, hcount⟩ := answers h
  rw [CleanupJob.isOver_task, hcount] at hover
  -- less than a window was left, so the limit has kept every target
  have hall : dead.Perm (w.query.targets (job.context o lower) s.graph) :=
    hsub.perm_of_length_le (by omega)
  apply List.eq_nil_iff_forall_not_mem.2
  intro b hb
  obtain ⟨e, hbe, hhas⟩ := Sweep.holds_of_mem_rows hb
  have hbefore : b ∈ w.rows (job.context o lower) s.graph :=
    Query.matched_subset (s.graph.without_within dead) _ _ (List.Subset.refl _) hb
  have htarget : e ∈ w.query.targets (job.context o lower) s.graph :=
    Sweep.mem_targets.2 ⟨b, hbefore, hbe⟩
  have hgone := Graph.not_has_without (g := s.graph) (hall.mem_iff.2 htarget)
  rw [hhas] at hgone
  cases hgone

/-- A full window makes the graph smaller. -/
theorem size_lt {w : Sweep} (h : (job.task o w.query).Answers lower s count s')
    (hfull : (job.task o w.query).stage.isOver count = false) :
    s'.graph.size < s.graph.size := by
  obtain ⟨dead, hsub, hlen, rfl, hcount⟩ := answers h
  have hwindow : ¬ count.toInt < o.window.toNat := by
    intro hlt
    have hover : (job.task o w.query).stage.isOver count = true := CleanupJob.isOver_task.2 hlt
    rw [hfull] at hover
    cases hover
  have hpos : 0 < dead.length := by
    have hroom := o.window_toNat
    omega
  obtain ⟨e, he⟩ := List.exists_mem_of_length_pos hpos
  exact Graph.size_without_lt he (Sweep.has_of_mem_targets (hsub.subset he))

/-! ## All windows -/

/-- A job has at most a window for each query and each element. -/
theorem length_le {ε : Type} {replies : List (Reply ε)} (hjob : schema.HasJob job)
    (hs : Session lower (job.tasks o) s replies s') :
    replies.length ≤ job.queries.length + s.graph.size := by
  have hlen := hs.length_le (fun s => s.graph.size)
    (fun t ht s count s' h => (hjob.within ht h).size_le)
    (fun t ht s count s' h hfull => by
      obtain ⟨w, -, rfl⟩ := hjob.exists_sweep ht
      exact size_lt h hfull)
  rw [CleanupJob.tasks, List.length_map] at hlen
  exact hlen

/-- When a job has come to its end, none of its queries matches anything. -/
theorem all_cleared {ε : Type} {replies : List (Reply ε)} (hjob : schema.HasJob job)
    (hs : Session lower (job.tasks o) s replies s')
    (hfin : (play (job.stages o) replies).progress = .finished) {w : Sweep}
    (hw : w ∈ schema.sweeps) : w.rows (job.context o lower) s'.graph = [] := by
  let Clear : Task → Store → Prop := fun t s =>
    ∀ v : Sweep, t = job.task o v.query → v.rows (job.context o lower) s.graph = []
  have hquery : w.query ∈ job.queries := by
    rw [hjob.queries]
    exact List.mem_map_of_mem hw
  have hclear : ∀ t ∈ job.tasks o, Clear t s' := by
    apply hs.settled Clear
    · rw [job.map_stage_tasks]
      exact hfin
    · intro t ht s count s' h hover v hv
      subst hv
      exact cleared h hover
    · intro t ht u hu s count s' h hclear v hv
      have hsub : v.rows (job.context o lower) s'.graph ⊆ v.rows (job.context o lower) s.graph :=
        Query.matched_subset (hjob.within hu h) _ _ (List.Subset.refl _)
      rw [hclear v hv] at hsub
      exact List.subset_nil.1 hsub
  exact hclear (job.task o w.query) (List.mem_map_of_mem hquery) w rfl

end Schema.HasJob

/-! ## The main result -/

/-- The database is sent the tasks of a job, and these are the stages that its
    run goes through.  Against any faithful database a cleanup job comes to its
    end, after at most a window for each query and each element.  No query of
    the job then matches anything, and no window has removed more of its
    targets than were asked for. -/
theorem cleanup_ends_clean {ε : Type} {schema : Schema} {job : CleanupJob}
    (hjob : schema.HasJob job) (o : SyncOptions) (lower : String → String) (db : Database)
    (s : Store) (hdb : db.Faithful lower (job.tasks o) s.graph) :
    (job.tasks o).map Task.stage = job.stages o ∧
    (∃ n, let (counts, s') := db.follow n 0 (job.tasks o) s
      (play (job.stages o) (counts.map Except.ok : List (Reply ε))).progress = .finished ∧
        counts.length ≤ job.queries.length + s.graph.size ∧
        ∀ q ∈ job.queries, ∀ now,
          q.matched { params := job.sent o, now, lower } s'.graph [Binding.empty] = []) ∧
    ∀ q ∈ job.queries, ∀ i (s₁ : Store), s₁.graph.Within s.graph →
      ∃ dead, dead ⊆ q.targets (job.context o lower) s₁.graph ∧
        dead.length ≤ max 1 o.cleanupWindow.toNat ∧
        (db i s₁ (job.task o q)).1.graph = s₁.graph.without dead := by
  refine ⟨job.map_stage_tasks o, ?_, ?_⟩
  · have hsession (n : Nat) := Database.follow_session (ε := ε) hdb
      (fun t ht s count s' h => hjob.within ht h) n 0 (Graph.Within.refl s.graph)
    have hbound (n : Nat) : (db.follow n 0 (job.tasks o) s).1.length ≤
        job.queries.length + s.graph.size := by
      have hlen := hjob.length_le (hsession n)
      rw [List.length_map] at hlen
      exact hlen
    -- one call more than there can be windows
    refine ⟨job.queries.length + s.graph.size + 1, ?_⟩
    have hfin := db.follow_length_or_finished (ε := ε)
      (job.queries.length + s.graph.size + 1) 0 (job.tasks o) s
    rw [job.map_stage_tasks] at hfin
    have hlen := hbound (job.queries.length + s.graph.size + 1)
    rcases hfin with hmany | hfin
    · omega
    · refine ⟨hfin, hlen, ?_⟩
      intro q hq now
      rw [hjob.queries] at hq
      obtain ⟨w, hw, rfl⟩ := List.mem_map.1 hq
      exact (w.rows_at (job.context o lower) now _).trans
        (hjob.all_cleared (hsession _) hfin hw)
  · intro q hq i s₁ hs₁
    have ht : job.task o q ∈ job.tasks o := List.mem_map_of_mem hq
    rw [hjob.queries] at hq
    obtain ⟨w, hw, rfl⟩ := List.mem_map.1 hq
    exact Schema.HasJob.window_bound (hdb i s₁ _ ht hs₁)

/-- The cleanup of the sample ends clean against the eager database. -/
theorem sample_ends_clean :
    let s : Store := { graph := Sample.graph, written := [] }
    (Database.eager id).Faithful id (Sample.job.tasks {}) s.graph ∧
    (Sample.job.tasks {}).map Task.stage = Sample.job.stages {} ∧
    (∃ n, let (counts, s') := (Database.eager id).follow n 0 (Sample.job.tasks {}) s
      (play (Sample.job.stages {})
          (counts.map Except.ok : List (Reply String))).progress = .finished ∧
        counts.length ≤ Sample.job.queries.length + s.graph.size ∧
        ∀ q ∈ Sample.job.queries, ∀ now,
          q.matched { params := Sample.job.sent {}, now, lower := id } s'.graph [Binding.empty] =
            []) ∧
    ∀ q ∈ Sample.job.queries, ∀ i (s₁ : Store), s₁.graph.Within s.graph →
      ∃ dead, dead ⊆ q.targets (Sample.job.context {} id) s₁.graph ∧
        dead.length ≤ max 1 100 ∧
        (Database.eager id i s₁ (Sample.job.task {} q)).1.graph = s₁.graph.without dead := by
  intro s
  have hdb := Database.eager_faithful Sample.hasJob {} (by decide) id s.graph
  exact ⟨hdb, cleanup_ends_clean Sample.hasJob {} id (Database.eager id) s hdb⟩

end GraphSync
