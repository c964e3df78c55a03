import GraphSync.Proofs.Run.Refusal

/-! # Rows in batches

    A load sends its rows in batches.  What the batches have to be is said
    without the loop that cuts them: the rows in their order, as many in each
    as a batch holds, and a last one that may be shorter (`InBatches`).

    With a database that does not fail, a load sends its index statements and
    then each batch once, and nothing else (`load_sends_batches`). -/

namespace GraphSync

open Cypher Plan

/-! ## Batches -/

/-- `InBatches b rows parts`: the parts are the rows, in batches of `b`. -/
structure InBatches {α : Type} (b : Nat) (rows : List α) (parts : List (List α)) : Prop where
  /-- No row is lost, sent twice or sent out of order. -/
  whole : parts.flatten = rows
  full  : ∀ part ∈ parts.dropLast, part.length = b
  last  : ∀ part ∈ parts.getLast?, 1 ≤ part.length ∧ part.length ≤ b
  /-- There are as many parts as the rows ask for, rounded up. -/
  count : parts.length = (rows.length + b - 1) / b

namespace InBatches

variable {α : Type} {b : Nat} {part rows : List α} {parts : List (List α)}

theorem single (hpos : 1 ≤ part.length) (hle : part.length ≤ b) : InBatches b part [part] where
  whole := by simp
  full := by simp
  last := by simpa using ⟨hpos, hle⟩
  count := by
    rw [List.length_singleton, Nat.div_eq_of_lt_le]
    · omega
    · omega

/-- A full batch goes before others. -/
theorem cons (hpart : part.length = b) (hb : 1 ≤ b) (hrows : rows ≠ [])
    (h : InBatches b rows parts) : InBatches b (part ++ rows) (part :: parts) := by
  have hparts : parts ≠ [] := by
    rintro rfl
    exact hrows h.whole.symm
  refine ⟨?_, ?_, ?_, ?_⟩
  · rw [List.flatten_cons, h.whole]
  · rw [List.dropLast_cons_of_ne_nil hparts]
    exact List.forall_mem_cons.2 ⟨hpart, h.full⟩
  · rw [List.getLast?_cons_of_ne_nil hparts]
    exact h.last
  · have hpos : 1 ≤ rows.length := List.length_pos_iff.2 hrows
    have hround : (part ++ rows).length + b - 1 = rows.length + b - 1 + b := by
      rw [List.length_append]
      omega
    rw [List.length_cons, h.count, hround, Nat.add_div_right _ hb]

end InBatches

/-- The loop cuts the rows into batches. -/
theorem inBatches_batches {α : Type} {n : Nat} (hn : 1 ≤ n) (rows : List α) :
    InBatches n rows (batches n rows) := by
  fun_induction batches n rows with
  | case1 =>
    refine ⟨rfl, by simp, by simp, ?_⟩
    rw [List.length_nil, List.length_nil, Nat.div_eq_of_lt (by omega)]
  | case2 row rest ih =>
    by_cases hrest : rest.drop (n - 1) = []
    · -- all that is left fits in one batch
      have hlen : rest.length ≤ n - 1 := List.drop_eq_nil_iff.1 hrest
      rw [hrest, List.take_of_length_le hlen, batches]
      exact .single (by simp) (by rw [List.length_cons]; omega)
    · have hlen : n - 1 < rest.length := by
        by_contra hle
        exact hrest (List.drop_eq_nil_iff.2 (by omega))
      have hpart : (row :: rest.take (n - 1)).length = n := by
        rw [List.length_cons, List.length_take]
        omega
      have hcons := InBatches.cons hpart hn hrest ih
      rwa [List.cons_append, List.take_append_drop] at hcons

/-- A batch has room for one row, and for no more than were asked for. -/
theorem SyncOptions.batch_toNat (o : SyncOptions) : o.batch.toNat = max 1 o.batchSize.toNat :=
  toNat_atLeastOne o.batchSize

/-! ## Stages that are over with one reply -/

/-- Stages that send their call once are over with one reply for each, whatever
    the replies are. -/
theorem play_once {ε : Type} {stages : List Stage} (honce : ∀ stage ∈ stages, stage.window = none)
    {counts : List Int64} (hlen : stages.length ≤ counts.length) :
    play stages (counts.map .ok : List (Reply ε)) =
      { calls := stages.map Stage.call, counts := counts.take stages.length,
        progress := .finished } := by
  induction stages generalizing counts with
  | nil =>
    rw [play]
    rfl
  | cons stage rest ih =>
    obtain ⟨hstage, hrest⟩ := List.forall_mem_cons.1 honce
    cases counts with
    | nil => cases hlen
    | cons count counts =>
      have hover : stage.isOver count = true := by
        unfold Stage.isOver
        rw [hstage]
      rw [List.map_cons, play, if_pos hover, ih hrest (Nat.le_of_succ_le_succ hlen)]
      rfl

/-! ## Loads -/

theorem checkRows_of_objects {items : List Json}
    (hobjects : ∀ row ∈ items, ∃ members, row = .object members) :
    checkRows (items.map .ok) = .ok items := by
  have hfrom (index : Nat) : checkRowsFrom index (items.map .ok) = .ok items := by
    induction items generalizing index with
    | nil => rfl
    | cons row rest ih =>
      obtain ⟨⟨members, rfl⟩, hrest⟩ := List.forall_mem_cons.1 hobjects
      rw [List.map_cons, checkRowsFrom, ih hrest]
      rfl
  exact hfrom 0

/-- What a load consists of when nothing is due. -/
theorem Schema.load_of_given {schema : Schema} {items : List Json} {p : Parameters}
    (o : SyncOptions) (hrows : items ≠ [])
    (hobjects : ∀ row ∈ items, ∃ members, row = .object members)
    (hset : ∀ marker ∈ schema.markers, ¬ p.Unset marker)
    (hgiven : ∀ name ∈ callerParameters schema.ingestion, p.contains name = true) :
    schema.load (items.map .ok) p o =
      .ok { stages := indexStages schema.indexes ++
              (batches o.batch.toNat items).map (batchStage schema.ingestion.text p)
            summary := { rows := items.length
                         batches := (batches o.batch.toNat items).length } } := by
  have hnonempty : (items.map .ok : List Row).isEmpty = false := by
    rw [List.isEmpty_eq_false_iff]
    exact fun h => hrows (List.map_eq_nil_iff.1 h)
  have hprepared (label : String) := Load.prepare_of_supplied label schema.indexes o hnonempty
    hgiven (checkRows_of_objects hobjects)
  cases schema with
  | node s => exact hprepared s.label
  | matchlink m =>
    show m.load (items.map .ok) p o = _
    unfold Matchlink.load
    rw [Matchlink.checkScope_eq_ok_iff.2 hset]
    exact hprepared m.relationship.label

/-- What has been said above is all that can be due. -/
theorem Schema.not_due {schema : Schema} {items : List Json} {p : Parameters}
    (hrows : items ≠ []) (hobjects : ∀ row ∈ items, ∃ members, row = .object members)
    (hset : ∀ marker ∈ schema.markers, ¬ p.Unset marker)
    (hgiven : ∀ name ∈ callerParameters schema.ingestion, p.contains name = true)
    (e : RunError) : ¬ schema.Due (items.map .ok) p e := by
  intro hdue
  have hload := schema.load_of_given {} hrows hobjects hset hgiven
  rw [Schema.load_eq_error_iff.2 hdue] at hload
  cases hload

/-- A load of objects of which nothing is due, with a database that has a reply
    to each call, makes sure of the indexes, sends every batch once and returns
    their number.  The rows of a batch stand in place of what the caller has
    given under their name. -/
theorem load_sends_batches {ε : Type} {schema : Schema} {items : List Json} {p : Parameters}
    (o : SyncOptions) (hrows : items ≠ [])
    (hobjects : ∀ row ∈ items, ∃ members, row = .object members)
    (hset : ∀ marker ∈ schema.markers, ¬ p.Unset marker)
    (hgiven : ∀ name ∈ callerParameters schema.ingestion, p.contains name = true) :
    ∃ parts, InBatches (max 1 o.batchSize.toNat) items parts ∧
      ∀ counts : List Int64, schema.indexes.length + parts.length ≤ counts.length →
        schema.loading (items.map .ok) p o (counts.map .ok : List (Reply ε)) =
          { calls :=
              (schema.indexes.map fun index => .run { text := index.text, params := .empty }) ++
                parts.map fun part =>
                  .run { text := schema.ingestion.text
                         params := p.insert rowsParam (.array part) }
            ending := .returned { rows := items.length, batches := parts.length } } := by
  refine ⟨batches o.batch.toNat items, ?_, ?_⟩
  · rw [← o.batch_toNat]
    exact inBatches_batches (by rw [o.batch_toNat]; omega) items
  · intro counts hcounts
    have hload := schema.load_of_given o hrows hobjects hset hgiven
    -- neither an index statement nor a batch waits for a short reply
    have honce : ∀ stage ∈ indexStages schema.indexes ++
        (batches o.batch.toNat items).map (batchStage schema.ingestion.text p),
        stage.window = none := by
      intro stage hstage
      rcases List.mem_append.1 hstage with hstage | hstage
      · obtain ⟨index, -, rfl⟩ := List.mem_map.1 hstage
        rfl
      · obtain ⟨part, -, rfl⟩ := List.mem_map.1 hstage
        rfl
    have hlen : (indexStages schema.indexes ++
        (batches o.batch.toNat items).map (batchStage schema.ingestion.text p)).length ≤
        counts.length := by
      rw [List.length_append, indexStages, List.length_map, List.length_map]
      exact hcounts
    unfold Schema.loading Outcome.ofChecked
    rw [hload]
    dsimp only
    rw [play_once honce hlen, indexStages, List.map_append, List.map_map, List.map_map]
    rfl

namespace Sample

/-- Three hosts. -/
def threeHosts : List Json := ["x", "y", "z"].map fun id => .object [("id", .string id)]

/-- The parameters of the first run, for the account `a`.  The caller has also
    given a value under the name of the rows. -/
def hostParams : Parameters :=
  ((Parameters.forRun 1).insert "ACCOUNT" (.string "a")).insert rowsParam .null

theorem threeHosts_ne_nil : threeHosts ≠ [] := List.cons_ne_nil _ _

theorem threeHosts_objects : ∀ row ∈ threeHosts, ∃ members, row = .object members := by
  intro row hrow
  obtain ⟨id, -, rfl⟩ := List.mem_map.1 hrow
  exact ⟨_, rfl⟩

theorem hosts_markers : ∀ marker ∈ (Schema.node hosts).markers, ¬ hostParams.Unset marker :=
  fun _ hmarker => absurd hmarker List.not_mem_nil

theorem hosts_given : ∀ name ∈ callerParameters (Schema.node hosts).ingestion,
    hostParams.contains name = true := by
  have hreads : ∀ name ∈ clauseParams hosts.ingestion, hostParams.contains name = true := by decide
  exact fun name hname => hreads name (mem_callerParameters.1 hname).1

end Sample

/-- Three hosts are sent two at a time, after the indexes. -/
theorem three_hosts_in_two_batches :
    Sample.threeHosts ≠ [] ∧
    (∀ row ∈ Sample.threeHosts, ∃ members, row = .object members) ∧
    (∀ marker ∈ (Schema.node Sample.hosts).markers, ¬ Sample.hostParams.Unset marker) ∧
    (∀ name ∈ callerParameters (Schema.node Sample.hosts).ingestion,
      Sample.hostParams.contains name = true) ∧
    ∃ parts, InBatches 2 Sample.threeHosts parts ∧ parts.length = 2 ∧
      (Schema.node Sample.hosts).loading (Sample.threeHosts.map .ok) Sample.hostParams
          { batchSize := 2 } ((List.replicate 6 0).map .ok : List (Reply String)) =
        { calls :=
            (Sample.hosts.indexes.map fun index => .run { text := index.text, params := .empty }) ++
              parts.map fun part =>
                .run { text := Sample.hosts.ingestion.text
                       params := Sample.hostParams.insert rowsParam (.array part) }
          ending := .returned { rows := 3, batches := parts.length } } := by
  obtain ⟨parts, hparts, hsent⟩ :=
    load_sends_batches (ε := String) { batchSize := 2 } Sample.threeHosts_ne_nil
      Sample.threeHosts_objects Sample.hosts_markers Sample.hosts_given
  have hcount : parts.length = 2 := hparts.count
  have hindexes : Sample.hosts.indexes.length = 4 := by decide
  refine ⟨Sample.threeHosts_ne_nil, Sample.threeHosts_objects, Sample.hosts_markers,
    Sample.hosts_given, parts, hparts, hcount, hsent (List.replicate 6 0) ?_⟩
  rw [hcount, List.length_replicate]
  exact Nat.le_of_eq (congrArg (· + 2) hindexes)

end GraphSync
