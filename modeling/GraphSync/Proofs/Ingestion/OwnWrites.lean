import GraphSync.Proofs.Cleanup.Targets
import GraphSync.Proofs.Ingestion.Marks

/-! # What a run has written, and its cleanup

    * `load_spares_its_writes`: when the records that a cleanup compares are
      fed by the tag, no cleanup of a run deletes what a load of the same run
      has written.  No other reference gives the tag in every run.
    * `stamped_load_is_swept`: the checks on schemas do not see to it. -/

namespace GraphSync

open Cypher

/-! ## Loads and cleanups of one run -/

/-- The parameters that go with a batch still hold the tag. -/
theorem tagged_batch {tag : Int64} {extras : List (String × Json)} (hextras : AreExtras extras)
    (batch : List Json) (now : Int64) (lower : String → String) :
    Context.Tagged
      { params := (Parameters.ofRun tag extras).insert rowsParam (.array batch), now, lower }
      tag := by
  intro name hname
  have hrows : name ≠ rowsParam := by
    rcases hname with rfl | rfl
    · decide
    · decide
  rw [← Parameters.value_ofRun hextras hname]
  exact Parameters.value_insert_of_ne _ hrows _

/-- At every point of a load, what it has written carries the tag of its
    run. -/
theorem Schema.Carries.marked {ε : Type} {schema : Schema} (hschema : schema.Built)
    (hmarks : schema.MarksRun) {tag : Int64} {extras : List (String × Json)}
    (hextras : AreExtras extras) {load : Load} {tasks : List Task}
    (htasks : schema.Carries (Parameters.ofRun tag extras) load tasks) {lower : String → String}
    {s s' : Store} {replies : List (Reply ε)} (hs : Session lower tasks s replies s')
    (hstart : AllMarked schema.Compares tag s) : AllMarked schema.Compares tag s' := by
  refine htasks.invariant hs ?_ hstart
  intro batch now s₁ rows s₂ hexec hs₁
  exact schema.ingestion_marked (tagged_batch hextras batch now lower)
    (Parameters.value_insert_self _ _ _) hschema hmarks hexec hs₁

/-- What may be removed is stale, and its record is compared. -/
theorem Schema.MayRemove.stale {schema : Schema} {cx : Context} {g : Graph} {e : Element}
    (h : schema.MayRemove cx g e) : schema.Compares e ∧ g.Stale cx.params e := by
  cases schema with
  | node s =>
    cases e with
    | node n => exact ⟨h.1, h.2.2⟩
    | link l => exact ⟨trivial, h.1⟩
  | matchlink m =>
    cases e with
    | node n => exact absurd h id
    | link l => exact ⟨trivial, h.1⟩

/-- No cleanup of a run deletes what a load of the same run has written,
    whatever rows and further parameters the load had, whatever was in the
    graph, and at whatever point the two are. -/
def Schema.SparesItsWrites (schema : Schema) : Prop :=
  ∀ (ε : Type) tag extras, AreExtras extras →
    ∀ rows o load tasks, schema.load rows (Parameters.ofRun tag extras) o = .ok load →
      schema.Carries (Parameters.ofRun tag extras) load tasks →
    ∀ lower g s' (replies : List (Reply ε)),
      Session lower tasks { graph := g, written := [] } replies s' →
    ∀ q ∈ schema.cleanup, ∀ cx g', cx.params.value updateTagParam = .ofInt64 tag →
      g'.Within s'.graph → ∀ e ∈ s'.written, e ∉ q.targets cx g'

/-- The records that a cleanup compares hold the tag in every run, for every
    row and with all further parameters, just when they are fed by a parameter
    that holds it.  Then a run never sweeps what it has written. -/
theorem load_spares_its_writes {schema : Schema} (hschema : schema.Built) :
    (schema.MarksRun ↔ ∀ r ∈ schema.records, ∀ tag extras, AreExtras extras → ∀ field,
        r.value (Parameters.ofRun tag extras) field = .ofInt64 tag) ∧
      (schema.MarksRun → schema.SparesItsWrites) := by
  constructor
  · exact forall₂_congr fun r _ => Reference.readsTag_iff
  · intro hmarks ε tag extras hextras rows o load tasks _ htasks lower g s' replies hs q hq cx g'
      hcx hwithin e hwritten htarget
    have hmarked : AllMarked schema.Compares tag s' :=
      htasks.marked hschema hmarks hextras hs fun e he => by cases he
    rw [schema.cleanup_eq_sweeps] at hq
    obtain ⟨w, hw, rfl⟩ := List.mem_map.1 hq
    obtain ⟨hcompares, hstale⟩ := (schema.mayRemove_of_mem_targets hw htarget).stale
    have hrecord := hmarked e hwritten hcompares
    -- a record cannot both be the tag and differ from it
    have hsame : (g'.prop e lastUpdatedKey).same (cx.params.value updateTagParam) = some true := by
      rw [hwithin.prop, hrecord, hcx]
      exact Json.same_ofInt64 tag
    unfold Graph.Stale at hstale
    rw [hsame] at hstale
    cases hstale

/-- The sample schema is one that spares what it has written. -/
theorem sample_spares_its_writes :
    (Schema.node Sample.hosts).Built ∧ (Schema.node Sample.hosts).MarksRun ∧
      (Schema.node Sample.hosts).SparesItsWrites := by
  have hmarks : (Schema.node Sample.hosts).MarksRun := by
    intro r hr
    have hparam : ∀ r ∈ (Schema.node Sample.hosts).records, r = .param lastUpdatedKey := by decide
    rw [hparam r hr]
    exact ⟨rfl, .inl rfl⟩
  exact ⟨Sample.hosts_built, hmarks, (load_spares_its_writes Sample.hosts_built).2 hmarks⟩

/-! ## A schema that sweeps what it has written -/

namespace Sample

/-- Hosts whose rows say when they were seen. -/
def stamped : NodeSchema where
  label := "Host"
  properties := [(idKey, .row "id"), (lastUpdatedKey, .row "seen")]
  extraLabels := []
  scope := .unscoped
  others := []

/-- A host that was seen at 1. -/
def seenRow : Json := .object [("id", .string "x"), ("seen", .ofInt64 1)]

theorem stamped_built : (Schema.node stamped).Built := by
  refine ⟨⟨{ label := "Host", properties := stamped.properties, scopedCleanup := false }, rfl⟩, ?_⟩
  intro rel hrel
  cases hrel

/-- The tasks of a load of that row in run 2. -/
def stampedTasks : List Task :=
  [.index (.node "Host" idKey), .index (.node "Host" lastUpdatedKey),
   .batch stamped.ingestion (Parameters.ofRun 2 []) [seenRow]]

theorem stamped_load : ∃ load,
    (Schema.node stamped).load [.ok seenRow] (Parameters.ofRun 2 []) {} = .ok load ∧
      (Schema.node stamped).Carries (Parameters.ofRun 2 []) load stampedTasks := by
  have hchecked : checkRows [.ok seenRow] = .ok [seenRow] := rfl
  have hreads : ∀ name ∈ clauseParams stamped.ingestion,
      name = rowsParam ∨ (Parameters.ofRun 2 []).contains name = true := by decide
  refine ⟨_, Load.prepare_eq_ok "Host" stamped.indexes {} rfl hreads hchecked, ?_, ?_⟩
  · have hindexes : stamped.indexes = [.node "Host" idKey, .node "Host" lastUpdatedKey] := by decide
    have hbatches : batches 10000 [seenRow] = [[seenRow]] := by simp [batches]
    show _ = indexStages stamped.indexes ++ (batches 10000 [seenRow]).map _
    rw [hindexes, hbatches]
    rfl
  · intro t ht
    rcases List.mem_cons.1 ht with rfl | ht
    · exact .inl ⟨_, rfl⟩
    · rcases List.mem_pair.1 ht with rfl | rfl
      · exact .inl ⟨_, rfl⟩
      · exact .inr ⟨_, rfl⟩

/-- A graph without elements. -/
def empty : Graph where
  nodes := []
  links := []
  labels _ := ∅
  type _ := ""
  source _ := 0
  target _ := 0
  prop _ _ := .null
  nodes_nodup := by decide
  links_nodup := by decide
  ends_mem := by decide

/-- The ingestion writes the host with its own stamp, and the cleanup of run 2
    is after it. -/
theorem stamped_exec : ∃ s' rows,
    stamped.ingestion.Exec
      { params := (Parameters.ofRun 2 []).insert rowsParam (.array [seenRow]), now := 0,
        lower := id }
      { graph := empty, written := [] } s' rows ∧
    .node 0 ∈ s'.written ∧
    .node 0 ∈ stamped.cleanupAllNodes.targets
      { params := Parameters.ofRun 2 [], now := 0, lower := id } s'.graph := by
  -- the row, then the merge that creates a node, then the assignments to it
  refine ⟨_, _, ⟨_, rfl, ⟨_, [_]⟩, ⟨[_], _, [], .inr ⟨rfl, _, _, ⟨0, _, _,
    ⟨?_, rfl, List.not_mem_nil, rfl⟩, ⟨rfl, rfl⟩⟩, rfl, rfl⟩, ⟨rfl, rfl⟩, rfl⟩,
    ⟨_, [_]⟩, ⟨[_], _, [], ⟨rfl, rfl⟩, ⟨rfl, rfl⟩, rfl⟩, rfl⟩, ?_, ?_⟩
  · decide
  · decide
  · decide

end Sample

/-- The checks do not make a schema spare what it has written: the rows of
    `stamped` bring their own records, which any cleanup takes for those of
    another run. -/
theorem stamped_load_is_swept :
    (Schema.node Sample.stamped).Built ∧ ¬ (Schema.node Sample.stamped).SparesItsWrites := by
  refine ⟨Sample.stamped_built, ?_⟩
  intro hspares
  obtain ⟨load, hload, hcarries⟩ := Sample.stamped_load
  obtain ⟨s', rows, hexec, hwritten, htarget⟩ := Sample.stamped_exec
  have hindex (i : Index) (s : Store) : (Task.index i).Answers id s 0 s :=
    ⟨0, [], ⟨rfl, rfl⟩, trivial⟩
  have hbatch : (Task.batch Sample.stamped.ingestion (Parameters.ofRun 2 [])
      [Sample.seenRow]).Answers id { graph := Sample.empty, written := [] } 0 s' :=
    ⟨0, rows, hexec, trivial⟩
  have hsession : Session (ε := String) id Sample.stampedTasks
      { graph := Sample.empty, written := [] } [.ok 0, .ok 0, .ok 0] s' :=
    .answered (hindex _ _) (.answered (hindex _ _) (.answered hbatch (.pause [] s')))
  exact hspares String 2 [] (by simp [AreExtras]) _ _ load _ hload hcarries id _ s' _ hsession
    Sample.stamped.cleanupAllNodes List.mem_cons_self
    { params := Parameters.ofRun 2 [], now := 0, lower := id } s'.graph rfl
    (Graph.Within.refl s'.graph) _ hwritten htarget

end GraphSync
