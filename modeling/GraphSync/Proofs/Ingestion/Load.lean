import GraphSync.Proofs.Graph.Session
import GraphSync.Proofs.Run.Parameters
import GraphSync.Proofs.Schema.Accepted
import Mathlib.Data.Set.List

/-! # Loads against a database

    A load sends its index statements and then one ingestion for each batch.
    `Schema.Carries` ties its stages to what they ask for.  A load that passes
    its checks has such tasks (`Schema.exists_carries`). -/

namespace GraphSync

open Cypher

/-- A load with all the parameters that it asks for, and rows that are objects,
    passes its checks. -/
theorem Load.prepare_of_supplied (label : String) (indexes : List Index) (o : SyncOptions)
    {q : Query} {rows : List Row} {p : Parameters} {checked : List Json}
    (hrows : rows.isEmpty = false)
    (hp : ∀ name ∈ Plan.callerParameters q, p.contains name = true)
    (hchecked : checkRows rows = .ok checked) :
    Load.prepare label q indexes rows p o =
      .ok { stages := indexStages indexes ++
              (batches o.batch.toNat checked).map (batchStage q.text p)
            summary := { rows := checked.length
                         batches := (batches o.batch.toNat checked).length } } := by
  have hrequire : p.require label (Plan.callerParameters q) = .ok () :=
    (Parameters.require_eq_ok label).2 hp
  unfold Load.prepare
  rw [hrows, hrequire, hchecked]
  rfl

/-- The same for the parameters that the query reads. -/
theorem Load.prepare_eq_ok (label : String) (indexes : List Index) (o : SyncOptions) {q : Query}
    {rows : List Row} {p : Parameters} {checked : List Json} (hrows : rows.isEmpty = false)
    (hp : ∀ name ∈ clauseParams q, name = rowsParam ∨ p.contains name = true)
    (hchecked : checkRows rows = .ok checked) :
    Load.prepare label q indexes rows p o =
      .ok { stages := indexStages indexes ++
              (batches o.batch.toNat checked).map (batchStage q.text p)
            summary := { rows := checked.length
                         batches := (batches o.batch.toNat checked).length } } := by
  apply Load.prepare_of_supplied label indexes o hrows _ hchecked
  intro name hname
  obtain ⟨hmem, hne, -⟩ := Plan.mem_callerParameters.1 hname
  exact (hp name hmem).resolve_left hne

/-- A load that has passed its checks sends nothing, for there are no rows, or
    it has all the parameters that its query reads, and sends the indexes and
    then the rows in batches. -/
theorem Load.prepare_ok {label : String} {q : Query} {indexes : List Index} {rows : List Row}
    {p : Parameters} {o : SyncOptions} {load : Load}
    (h : Load.prepare label q indexes rows p o = .ok load) :
    rows = [] ∧ load.stages = [] ∨
      ∃ checked, checkRows rows = .ok checked ∧
        (∀ name ∈ Plan.callerParameters q, p.contains name = true) ∧
        load.stages = indexStages indexes ++
          (batches o.batch.toNat checked).map (batchStage q.text p) := by
  unfold Load.prepare at h
  split at h
  · next hrows =>
    cases h
    exact .inl ⟨List.isEmpty_iff.1 hrows, rfl⟩
  · obtain ⟨_, hrequire, h⟩ := Except.of_bind_ok h
    obtain ⟨checked, hchecked, h⟩ := Except.of_bind_ok h
    cases h
    exact .inr ⟨checked, hchecked, (Parameters.require_eq_ok label).1 hrequire, rfl⟩

/-! ## Rows of a load -/

/-- The batches hold all rows, in their order. -/
theorem flatten_batches {α : Type} (n : Nat) (rows : List α) : (batches n rows).flatten = rows := by
  fun_induction batches n rows with
  | case1 => rfl
  | case2 row rest ih =>
    rw [List.flatten_cons, ih, List.cons_append, List.take_append_drop]

/-- The rows that have been checked are those of the load, in their order. -/
theorem eq_of_checkRows {rows : List Row} {checked : List Json}
    (h : checkRows rows = .ok checked) : rows = checked.map .ok := by
  have hfrom (index : Nat) (hfrom : checkRowsFrom index rows = .ok checked) :
      rows = checked.map .ok := by
    clear h
    induction rows generalizing index checked with
    | nil =>
      cases hfrom
      rfl
    | cons first rest ih =>
      unfold checkRowsFrom at hfrom
      split at hfrom
      · next hempty => cases hempty
      · cases hfrom
      · next members _ heq =>
        cases heq
        cases hrest : checkRowsFrom (index + 1) rest with
        | error e =>
          rw [hrest] at hfrom
          cases hfrom
        | ok others =>
          rw [hrest] at hfrom
          cases hfrom
          rw [ih (index + 1) hrest]
          rfl
      · cases hfrom
  exact hfrom 0 h

/-! ## Tasks of a load -/

/-- The task that makes sure of an index. -/
def Task.index (i : Index) : Task where
  work := .index i
  stage := { call := .run { text := i.text, params := .empty } }
  text_eq := rfl

/-- The task that sends a batch. -/
def Task.batch (q : Query) (p : Parameters) (batch : List Json) : Task where
  work := .query q
  stage := batchStage q.text p batch
  text_eq := rfl

theorem Task.index_answers (lower : String → String) (i : Index) (s : Store) :
    (Task.index i).Answers lower s 0 s :=
  ⟨0, [], ⟨rfl, rfl⟩, trivial⟩

namespace Schema

/-- The ingestion query of a schema. -/
def ingestion : Schema → Query
  | .node s => s.ingestion
  | .matchlink m => m.ingestion

/-- The index statements of a schema, each once. -/
def indexes : Schema → List Index
  | .node s => s.indexes
  | .matchlink m => m.indexes

/-- The load of rows by a schema. -/
def load (schema : Schema) (rows : List Row) (p : Parameters) (o : SyncOptions) :
    Except RunError Load :=
  match schema with
  | .node s => s.load rows p o
  | .matchlink m => m.load rows p o

/-- What `Load.prepare_ok` says, for a load by a schema. -/
theorem load_ok {schema : Schema} {rows : List Row} {p : Parameters} {o : SyncOptions}
    {load : Load} (h : schema.load rows p o = .ok load) :
    rows = [] ∧ load.stages = [] ∨
      ∃ (indexes : List Index) (checked : List Json), checkRows rows = .ok checked ∧
        (∀ name ∈ Plan.callerParameters schema.ingestion, p.contains name = true) ∧
        load.stages = indexStages indexes ++
          (batches o.batch.toNat checked).map (batchStage schema.ingestion.text p) := by
  cases schema with
  | node s => exact (Load.prepare_ok h).imp id fun hload => ⟨s.indexes, hload⟩
  | matchlink m =>
    obtain ⟨_, -, hprepare⟩ := Except.of_bind_ok (show m.load rows p o = .ok load from h)
    exact (Load.prepare_ok hprepare).imp id fun hload => ⟨m.indexes, hload⟩

/-- Tasks with the stages of a load: indexes, and batches for the ingestion of
    the schema. -/
structure Carries (schema : Schema) (p : Parameters) (load : Load) (tasks : List Task) : Prop where
  stages : tasks.map Task.stage = load.stages
  works  : ∀ t ∈ tasks, (∃ i, t = .index i) ∨ ∃ batch, t = .batch schema.ingestion p batch

/-- Every load that passes its checks is carried by some tasks. -/
theorem exists_carries {schema : Schema} {rows : List Row} {p : Parameters} {o : SyncOptions}
    {load : Load} (h : schema.load rows p o = .ok load) : ∃ tasks, schema.Carries p load tasks := by
  rcases schema.load_ok h with ⟨-, hstages⟩ | ⟨indexes, checked, -, -, hstages⟩
  · refine ⟨[], hstages.symm, ?_⟩
    simp
  · refine ⟨indexes.map Task.index ++
      (batches o.batch.toNat checked).map (Task.batch schema.ingestion p), ?_, ?_⟩
    · rw [List.map_append, List.map_map, List.map_map, hstages]
      rfl
    · intro t ht
      rcases List.mem_append.1 ht with ht | ht
      · obtain ⟨i, -, rfl⟩ := List.mem_map.1 ht
        exact .inl ⟨i, rfl⟩
      · obtain ⟨batch, -, rfl⟩ := List.mem_map.1 ht
        exact .inr ⟨batch, rfl⟩

/-- A load keeps what each ingestion of a batch keeps. -/
theorem Carries.invariant {ε : Type} {schema : Schema} {p : Parameters} {load : Load}
    {tasks : List Task} (h : schema.Carries p load tasks) {lower : String → String} {s s' : Store}
    {replies : List (Reply ε)} (hs : Session lower tasks s replies s') {I : Store → Prop}
    (batch_keeps : ∀ batch now s rows s',
      schema.ingestion.Exec { params := p.insert rowsParam (.array batch), now, lower } s s' rows →
        I s → I s')
    (hstart : I s) : I s' := by
  refine hs.invariant ?_ hstart
  intro t ht s₁ count s₂ hanswers hs₁
  obtain ⟨now, rows, hexec, -⟩ := hanswers
  rcases h.works t ht with ⟨i, rfl⟩ | ⟨batch, rfl⟩
  · -- an index leaves the graph as it is
    obtain ⟨rfl, -⟩ := hexec
    exact hs₁
  · exact batch_keeps batch now s₁ rows s₂ hexec hs₁

section Stages

variable {q : Query} {p : Parameters} {t : Task} {tasks : List Task}

/-- What is sent under the name of the rows tells the tasks apart. -/
theorem eq_index_of_stage {i : Index}
    (hworks : (∃ i, t = .index i) ∨ ∃ batch, t = .batch q p batch)
    (hstage : t.stage = (Task.index i).stage) : ∃ i', t = .index i' := by
  rcases hworks with hindex | ⟨batch, rfl⟩
  · exact hindex
  · have hsent : (Task.batch q p batch).stage.call.statement.params.find? rowsParam =
        some (.array batch) := Dictionary.find?_insert_self _ _ _
    rw [hstage] at hsent
    cases hsent

theorem eq_batch_of_stage {part : List Json}
    (hworks : (∃ i, t = .index i) ∨ ∃ batch, t = .batch q p batch)
    (hstage : t.stage = batchStage q.text p part) : t = .batch q p part := by
  have hsent : t.stage.call.statement.params.find? rowsParam = some (.array part) := by
    rw [hstage]
    exact Dictionary.find?_insert_self _ _ _
  rcases hworks with ⟨i, rfl⟩ | ⟨batch, rfl⟩
  · cases hsent
  · have hown : (Task.batch q p batch).stage.call.statement.params.find? rowsParam =
        some (.array batch) := Dictionary.find?_insert_self _ _ _
    rw [hown, Option.some.injEq, Json.array.injEq] at hsent
    rw [hsent]

theorem eq_indexes_of_stages {indexes : List Index}
    (hworks : ∀ t ∈ tasks, (∃ i, t = .index i) ∨ ∃ batch, t = .batch q p batch)
    (hstages : tasks.map Task.stage = indexStages indexes) :
    ∃ indexes' : List Index, indexes'.map Task.index = tasks := by
  show tasks ∈ Set.range (List.map Task.index)
  rw [Set.range_list_map]
  intro t ht
  have hmem : t.stage ∈ indexStages indexes := hstages ▸ List.mem_map_of_mem ht
  obtain ⟨i, -, hi⟩ := List.mem_map.1 hmem
  obtain ⟨i', hi'⟩ := eq_index_of_stage (hworks t ht) hi.symm
  exact ⟨i', hi'.symm⟩

theorem eq_batches_of_stages {parts : List (List Json)}
    (hworks : ∀ t ∈ tasks, (∃ i, t = .index i) ∨ ∃ batch, t = .batch q p batch)
    (hstages : tasks.map Task.stage = parts.map (batchStage q.text p)) :
    tasks = parts.map (Task.batch q p) := by
  induction parts generalizing tasks with
  | nil => exact List.map_eq_nil_iff.1 hstages
  | cons part rest ih =>
    obtain ⟨t, others, rfl, ht, hothers⟩ := List.map_eq_cons_iff.1 hstages
    obtain ⟨hwork, hworks⟩ := List.forall_mem_cons.1 hworks
    rw [List.map_cons, eq_batch_of_stage hwork ht, ih hworks hothers]

end Stages

/-- The tasks of a load make sure of indexes, and then send its rows in
    batches. -/
theorem Carries.tasks_eq {schema : Schema} {rows : List Row} {p : Parameters} {o : SyncOptions}
    {load : Load} {tasks : List Task} (hload : schema.load rows p o = .ok load)
    (h : schema.Carries p load tasks) :
    ∃ (indexes : List Index) (checked : List Json), rows = checked.map .ok ∧
      tasks = indexes.map Task.index ++
        (batches o.batch.toNat checked).map (Task.batch schema.ingestion p) := by
  rcases schema.load_ok hload with ⟨rfl, hnone⟩ | ⟨indexes, checked, hchecked, -, hstages⟩
  · refine ⟨[], [], rfl, ?_⟩
    rw [batches]
    exact List.map_eq_nil_iff.1 (h.stages.trans hnone)
  obtain ⟨before, after, rfl, hbefore, hafter⟩ := List.map_eq_append_iff.1 (h.stages.trans hstages)
  obtain ⟨hworks, hworks'⟩ := List.forall_mem_append.1 h.works
  obtain ⟨indexes', rfl⟩ := eq_indexes_of_stages hworks hbefore
  refine ⟨indexes', checked, eq_of_checkRows hchecked, ?_⟩
  rw [eq_batches_of_stages hworks' hafter]

/-- Every row of a load is in a batch that one of its tasks sends. -/
theorem Carries.batch_of_row {schema : Schema} {rows : List Row} {p : Parameters} {o : SyncOptions}
    {load : Load} {tasks : List Task} (hload : schema.load rows p o = .ok load)
    (h : schema.Carries p load tasks) {row : Json} (hrow : .ok row ∈ rows) :
    ∃ batch, row ∈ batch ∧ .batch schema.ingestion p batch ∈ tasks := by
  obtain ⟨indexes, checked, rfl, rfl⟩ := h.tasks_eq hload
  obtain ⟨row', hmem, heq⟩ := List.mem_map.1 hrow
  cases heq
  rw [← flatten_batches o.batch.toNat checked] at hmem
  obtain ⟨batch, hbatch, hmem⟩ := List.mem_flatten.1 hmem
  exact ⟨batch, hmem, List.mem_append_right _ (List.mem_map_of_mem hbatch)⟩

end Schema

end GraphSync
