import GraphSync.Proofs.Cleanup.Once
import GraphSync.Proofs.Cleanup.Scope
import GraphSync.Proofs.Cleanup.Windows
import Mathlib.Data.Finset.Card

/-! # What a cleanup reports

    A cleanup reports the sum of the counts that come back.  What it has
    deleted is read off the graphs between its calls: what is gone from one to
    the next, apart from the links that went with a node (`Graph.deleted`).
    `Removals` is a session that keeps a record of this.

    * `Graph.deleted_without`: what one statement has deleted are the elements
      that it was to delete.
    * `Schema.HasJob.card_deleted`: one call counts each of them once.
    * `Schema.HasJob.card_removed`: no element is deleted by two calls, so the
      counts of a run add up.

    The report is honest (`report_is_honest`) as long as no node has two links
    to owners.  A node with two is counted twice (`doubled_host_counts_twice`). -/

namespace GraphSync

open Cypher

/-! ## Deleted elements -/

/-- The elements of a graph. -/
def Graph.elements (g : Graph) : List Element := g.nodes.map .node ++ g.links.map .link

theorem Graph.mem_elements {g : Graph} {e : Element} : e ∈ g.elements ↔ g.has e = true := by
  cases e <;> simp [elements]

instance (before after : Graph) : DecidablePred (before.LostEnd after)
  | .node _ => inferInstanceAs (Decidable False)
  | .link l => inferInstanceAs
      (Decidable (before.source l ∉ after.nodes ∨ before.target l ∉ after.nodes))

/-- What has been deleted from a graph.  A link that has lost an end went with
    its node, and was not deleted itself. -/
def Graph.deleted (before after : Graph) : Finset Element :=
  (before.elements.filter fun e => after.has e = false ∧ ¬ before.LostEnd after e).toFinset

theorem Graph.mem_deleted {before after : Graph} {e : Element} :
    e ∈ before.deleted after ↔
      before.has e = true ∧ after.has e = false ∧ ¬ before.LostEnd after e := by
  simp [deleted, mem_elements]

/-- To remove some nodes, or some links, deletes just these. -/
theorem Graph.deleted_without {g : Graph} {dead : List Element}
    (hdead : ∀ e ∈ dead, g.has e = true)
    (halike : (∀ e ∈ dead, ∃ n, e = .node n) ∨ ∀ e ∈ dead, ∃ l, e = .link l) :
    g.deleted (g.without dead) = dead.toFinset := by
  ext e
  rw [mem_deleted, List.mem_toFinset]
  constructor
  · intro h
    obtain ⟨hbefore, hafter, hends⟩ := h
    by_contra he
    -- what is not among them stays, unless it is a link that loses an end
    rw [← Bool.not_eq_true] at hafter
    apply hafter
    cases e with
    | node n =>
      rw [has_node] at hbefore ⊢
      exact mem_nodes_without.2 ⟨hbefore, he⟩
    | link l =>
      rw [has_link] at hbefore ⊢
      simp only [LostEnd, not_or, not_not] at hends
      exact mem_links_without.2
        ⟨hbefore, he, (mem_nodes_without.1 hends.1).2, (mem_nodes_without.1 hends.2).2⟩
  · intro he
    refine ⟨hdead e he, not_has_without he, ?_⟩
    cases e with
    | node n => exact id
    | link l =>
      -- a link is among them, so no node is
      have hnodes (m : Nat) : .node m ∉ dead := by
        intro hm
        rcases halike with halike | halike
        · obtain ⟨n, hn⟩ := halike _ he
          cases hn
        · obtain ⟨k, hk⟩ := halike _ hm
          cases hk
      obtain ⟨hsource, htarget⟩ := g.ends_mem l ((g.has_link l).1 (hdead _ he))
      simp only [LostEnd, not_or, not_not]
      exact ⟨mem_nodes_without.2 ⟨hsource, hnodes _⟩, mem_nodes_without.2 ⟨htarget, hnodes _⟩⟩

/-! ## Sessions with a record -/

/-- `Removals lower tasks s replies s' gone`: a session whose calls have
    deleted the elements `gone`. -/
inductive Removals (lower : String → String) {ε : Type} :
    List Task → Store → List (Reply ε) → Store → Finset Element → Prop where
  | pause (tasks : List Task) (s : Store) : Removals lower tasks s [] s ∅
  | answered {t : Task} {rest : List Task} {s s₁ s' : Store} {count : Int64}
      {replies : List (Reply ε)} {gone : Finset Element} (first : t.Answers lower s count s₁)
      (later : Removals lower (t.next rest count) s₁ replies s' gone) :
      Removals lower (t :: rest) s (.ok count :: replies) s' (s.graph.deleted s₁.graph ∪ gone)
  | failed {t : Task} {rest : List Task} {s s' : Store} (e : ε)
      (last : s' = s ∨ ∃ count, t.Answers lower s count s') :
      Removals lower (t :: rest) s [.error e] s' (s.graph.deleted s'.graph)

section

variable {lower : String → String} {ε : Type} {tasks : List Task} {s s' : Store}
  {replies : List (Reply ε)}

/-- Every session has its record. -/
theorem session_iff_exists_removals :
    Session lower tasks s replies s' ↔ ∃ gone, Removals lower tasks s replies s' gone := by
  constructor
  · intro hs
    induction hs with
    | pause tasks s => exact ⟨∅, .pause tasks s⟩
    | answered first later ih =>
      obtain ⟨gone, hgone⟩ := ih
      exact ⟨_, .answered first hgone⟩
    | failed e last => exact ⟨_, .failed e last⟩
  · intro h
    obtain ⟨gone, hgone⟩ := h
    induction hgone with
    | pause tasks s => exact .pause tasks s
    | answered first later ih => exact .answered first ih
    | failed e last => exact .failed e last

/-- What was deleted was there, when no call adds anything. -/
theorem Removals.has_of_mem {gone : Finset Element} (h : Removals lower tasks s replies s' gone)
    (hwithin : ∀ t ∈ tasks, ∀ s count s', t.Answers lower s count s' → s'.graph.Within s.graph)
    {e : Element} (he : e ∈ gone) : s.graph.has e = true := by
  induction h with
  | pause tasks s => simp at he
  | @answered t rest s s₁ s' count replies gone first later ih =>
    rcases Finset.mem_union.1 he with he | he
    · exact (Graph.mem_deleted.1 he).1
    · have hlater := ih (fun u hu => hwithin u (t.next_subset rest count hu)) he
      exact (hwithin t List.mem_cons_self s count s₁ first).has hlater
  | failed e last => exact (Graph.mem_deleted.1 he).1

end

/-- The elements that at most `n` calls of a database after the `i`-th
    delete. -/
def Database.removed (db : Database) : (n i : Nat) → List Task → Store → Finset Element
  | 0, _, _, _ => ∅
  | _ + 1, _, [], _ => ∅
  | n + 1, i, t :: rest, s =>
    let (s₁, count) := db i s t
    s.graph.deleted s₁.graph ∪ db.removed n (i + 1) (t.next rest count) s₁

/-- What a faithful database does has this record. -/
theorem Database.follow_removals {db : Database} {lower : String → String} {ε : Type}
    {tasks : List Task} {g : Graph} (hdb : db.Faithful lower tasks g)
    (hwithin : ∀ t ∈ tasks, ∀ s count s', t.Answers lower s count s' → s'.graph.Within s.graph)
    (n i : Nat) {s : Store} (hs : s.graph.Within g) :
    Removals (ε := ε) lower tasks s ((db.follow n i tasks s).1.map .ok)
      (db.follow n i tasks s).2 (db.removed n i tasks s) := by
  induction n generalizing i tasks s with
  | zero => exact .pause tasks s
  | succ n ih =>
    cases tasks with
    | nil => exact .pause [] s
    | cons t rest =>
      have first := hdb i s t List.mem_cons_self hs
      have hs₁ := (hwithin t List.mem_cons_self _ _ _ first).trans hs
      have hsub := t.next_subset rest (db i s t).2
      exact .answered first (ih (fun j s u hu => hdb j s u (hsub hu))
        (fun u hu => hwithin u (hsub hu)) (i + 1) hs₁)

/-! ## One call -/

namespace Schema

variable {schema : Schema} {w : Sweep} {cx : Context} {g : Graph} {e : Element}

/-- What a cleanup deletes with its links is a node. -/
theorem node_of_mem_targets (hw : w ∈ schema.sweeps) (hdetach : w.detach = true)
    (he : e ∈ w.query.targets cx g) : ∃ n, e = .node n := by
  cases schema with
  | node s =>
    have hlinks : w ∉ s.others.map s.allLinksSweep := by
      intro hw
      obtain ⟨rel, -, rfl⟩ := List.mem_map.1 hw
      cases hdetach
    change w ∈ s.sweeps at hw
    unfold NodeSchema.sweeps at hw
    cases hscope : s.scope with
    | subResource sub =>
      rw [hscope, List.mem_cons, List.mem_cons, List.mem_map] at hw
      rcases hw with rfl | rfl | ⟨rel, -, rfl⟩
      · obtain ⟨n, l, owner, hn, -⟩ := NodeSchema.mem_targets_ownedNodes.1 he
        exact ⟨n, hn⟩
      · cases hdetach
      · cases hdetach
    | relationshipsOnly =>
      rw [hscope] at hw
      exact absurd hw hlinks
    | unscoped =>
      rw [hscope, List.mem_cons] at hw
      rcases hw with rfl | hw
      · obtain ⟨n, -, hn, -⟩ := NodeSchema.mem_targets_allNodes.1 he
        exact ⟨n, hn⟩
      · exact absurd hw hlinks
  | matchlink link =>
    obtain rfl : w = link.sweep := List.mem_singleton.1 hw
    cases hdetach

/-- A statement of a cleanup deletes nodes only, or links only. -/
theorem alike_of_mem_targets (hw : w ∈ schema.sweeps) :
    (∀ e ∈ w.query.targets cx g, ∃ n, e = .node n) ∨
      ∀ e ∈ w.query.targets cx g, ∃ l, e = .link l := by
  cases hdetach : w.detach with
  | true => exact .inl fun e he => node_of_mem_targets hw hdetach he
  | false => exact .inr fun e he => link_of_mem_targets hw hdetach he

namespace HasJob

variable {job : CleanupJob} {o : SyncOptions} {lower : String → String} {s s' : Store}
  {count : Int64} {tasks : List Task} {ε : Type} {replies : List (Reply ε)}
  {gone : Finset Element}

/-- One call replies the number of elements that it has deleted. -/
theorem card_deleted (hw : w ∈ schema.sweeps)
    (honce : schema.OneOwnerLink (job.context o lower) s.graph)
    (h : (job.task o w.query).Answers lower s count s') :
    (s.graph.deleted s'.graph).card = count.toInt.toNat := by
  obtain ⟨dead, hsub, -, rfl, hcount⟩ := answers h
  have hnodup : dead.Nodup := by
    obtain ⟨l, hperm, hl⟩ := hsub
    exact hperm.nodup_iff.1 (hl.nodup (nodup_targets hw honce))
  have hdeleted : s.graph.deleted (s.graph.without dead) = dead.toFinset := by
    apply Graph.deleted_without
    · intro e he
      exact Sweep.has_of_mem_targets (hsub.subset he)
    · exact (alike_of_mem_targets hw).imp (fun h e he => h e (hsub.subset he))
        fun h e he => h e (hsub.subset he)
  calc (s.graph.deleted (s.graph.without dead)).card
      = dead.toFinset.card := by rw [hdeleted]
    _ = dead.length := List.toFinset_card_of_nodup hnodup
    _ = count.toInt.toNat := by omega

/-! ## All calls -/

/-- In a run that has come to its end the counts add up to the number of
    elements that are gone. -/
theorem card_removed (hjob : schema.HasJob job) (hsub : tasks ⊆ job.tasks o)
    (h : Removals lower tasks s replies s' gone)
    (honce : schema.OneOwnerLink (job.context o lower) s.graph)
    (hfin : (play (tasks.map Task.stage) replies).progress = .finished) :
    gone.card = deletedIn (play (tasks.map Task.stage) replies).counts := by
  induction h with
  | pause tasks s =>
    cases tasks with
    | nil => rfl
    | cons t rest => cases hfin
  | @answered t rest s s₁ s' count replies gone first later ih =>
    have hnext : t.next rest count ⊆ job.tasks o := fun u hu => hsub (t.next_subset rest count hu)
    have ht : t ∈ job.tasks o := hsub List.mem_cons_self
    have hwithin : s₁.graph.Within s.graph := hjob.within ht first
    obtain ⟨w, hw, rfl⟩ := hjob.exists_sweep ht
    have hfirst := card_deleted hw honce first
    rw [Task.progress_play] at hfin
    have hlater := ih hnext (honce.within hwithin) hfin
    -- an element that is gone is not there to be deleted again
    have hdisjoint : Disjoint (s.graph.deleted s₁.graph) gone := by
      rw [Finset.disjoint_left]
      intro e he hgone
      have hhas := later.has_of_mem (fun u hu s count s' h => hjob.within (hnext hu) h) hgone
      rw [(Graph.mem_deleted.1 he).2.1] at hhas
      cases hhas
    rw [Finset.card_union_of_disjoint hdisjoint, hfirst, hlater, Task.play_ok]
    rfl
  | failed e last => cases hfin

end HasJob

end Schema

/-! ## The main result -/

/-- A cleanup that returns reports the number of nodes and links that it has
    deleted, as long as no node has two links to owners.  The number is kept in
    a word. -/
theorem report_is_honest {ε : Type} {schema : Schema} {job : CleanupJob}
    (hjob : schema.HasJob job) (o : SyncOptions) (lower : String → String) {s s' : Store}
    {replies : List (Reply ε)} {gone : Finset Element} {summary : CleanupSummary}
    (h : Removals lower (job.tasks o) s replies s' gone)
    (honce : schema.OneOwnerLink (job.context o lower) s.graph)
    (hreturned : (job.running o replies).ending = .returned summary) :
    summary.deleted = UInt64.ofNat gone.card := by
  unfold CleanupJob.running at hreturned
  rw [Transcript.ending_eq_returned_iff] at hreturned
  obtain ⟨hfin, rfl⟩ := hreturned
  have hcard := hjob.card_removed (List.Subset.refl _) h honce
  rw [job.map_stage_tasks] at hcard
  rw [← UInt64.toNat_inj, job.toNat_deleted, ← hcard hfin, UInt64.toNat_ofNat']

/-- What the eager database does for a job has a record. -/
theorem Database.eager_removals {ε : Type} {schema : Schema} {job : CleanupJob}
    (hjob : schema.HasJob job) (o : SyncOptions) (hwindow : o.window.toNat < Int64.size / 2)
    (lower : String → String) (n : Nat) (s : Store) :
    let db := eager lower
    Removals (ε := ε) lower (job.tasks o) s ((db.follow n 0 (job.tasks o) s).1.map .ok)
      (db.follow n 0 (job.tasks o) s).2 (db.removed n 0 (job.tasks o) s) :=
  follow_removals (eager_faithful hjob o hwindow lower s.graph)
    (fun _ ht _ _ _ h => hjob.within ht h) n 0 (Graph.Within.refl s.graph)

/-- The cleanup of the sample reports the host that it deletes, and not the
    link that goes with it. -/
theorem sample_report_is_honest :
    let s : Store := { graph := Sample.graph, written := [] }
    let replies : List (Reply String) := [1, 0, 0].map .ok
    (∃ s', Removals id (Sample.job.tasks {}) s replies s' {.node 2}) ∧
      (Schema.node Sample.hosts).OneOwnerLink (Sample.job.context {} id) s.graph ∧
      ∃ summary, (Sample.job.running {} replies).ending = .returned summary ∧
        summary.deleted = UInt64.ofNat ({.node 2} : Finset Element).card := by
  intro s replies
  have hcounts : ((Database.eager id).follow 3 0 (Sample.job.tasks {}) s).1 = [1, 0, 0] := by
    decide +kernel
  have hgone : (Database.eager id).removed 3 0 (Sample.job.tasks {}) s = {.node 2} := by
    decide +kernel
  have hremovals := Database.eager_removals (ε := String) Sample.hasJob {} (by decide) id 3 s
  dsimp only at hremovals
  rw [hcounts, hgone] at hremovals
  -- each link of the sample ends at a host of its own
  have honce : (Schema.node Sample.hosts).OneOwnerLink (Sample.job.context {} id) s.graph := by
    intro sub hsub n l owner l' owner' ho ho'
    cases hsub
    have htarget : l + 2 = n := ho.2.1.2.2.2
    have htarget' : l' + 2 = n := ho'.2.1.2.2.2
    omega
  exact ⟨⟨_, hremovals⟩, honce, _, rfl,
    report_is_honest Sample.hasJob {} id hremovals honce rfl⟩

namespace Sample

/-- An account and its host, which is joined to it twice. -/
def doubled : Graph where
  nodes := [0, 1]
  links := [0, 1]
  labels n := if n = 0 then {"Account"} else {"Host"}
  type _ := "RESOURCE"
  source _ := 0
  target _ := 1
  prop e key :=
    match e, key with
    | .node 0, "id" => .string "a"
    | _, "lastupdated" => .ofInt64 1
    | _, _ => .null
  nodes_nodup := pair_nodup
  links_nodup := pair_nodup
  ends_mem := by decide

end Sample

/-- A host with two links to its account is deleted once, and reported as two
    elements. -/
theorem doubled_host_counts_twice :
    let s : Store := { graph := Sample.doubled, written := [] }
    let replies : List (Reply String) := [2, 0, 0].map .ok
    (Schema.node Sample.hosts).Built ∧ (Schema.node Sample.hosts).HasJob Sample.job ∧
      (∃ s', Removals id (Sample.job.tasks {}) s replies s' {.node 1}) ∧
      ∃ summary, (Sample.job.running {} replies).ending = .returned summary ∧
        summary.deleted = 2 ∧ ({.node 1} : Finset Element).card = 1 := by
  intro s replies
  have hcounts : ((Database.eager id).follow 3 0 (Sample.job.tasks {}) s).1 = [2, 0, 0] := by
    decide +kernel
  have hgone : (Database.eager id).removed 3 0 (Sample.job.tasks {}) s = {.node 1} := by
    decide +kernel
  have hremovals := Database.eager_removals (ε := String) Sample.hasJob {} (by decide) id 3 s
  dsimp only at hremovals
  rw [hcounts, hgone] at hremovals
  exact ⟨Sample.hosts_built, Sample.hasJob, ⟨_, hremovals⟩, _, rfl, by decide, rfl⟩

end GraphSync
