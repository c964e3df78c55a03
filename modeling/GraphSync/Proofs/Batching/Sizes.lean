import GraphSync.Proofs.Batching.Links
import GraphSync.Proofs.Ingestion.Idempotence
import GraphSync.Proofs.Run.Batches

/-! # Batches of any size

    A load sends its rows one batch after another, each in a statement of its
    own.  So relationships of a row do not see the nodes of rows in later
    batches, but they do see those of all rows of the same batch.

    * `loads_agree_for_all_batch_sizes`: the nodes are the same for all sizes.
      The links of a matchlink are too, and those of a node schema are when
      later rows do not change what relationships of earlier rows select.
    * `NodeSchema.steady_of_labels`: that is so when relationships lead to
      nodes of other labels.
    * `split_batches_lose_a_link`: it is not so for hosts that know hosts. -/

namespace GraphSync

open Cypher Plan

/-! ## Statements one after another -/

/-- What the statements of a run are evaluated with, but for the rows and the
    time. -/
def Context.ofRun (lower : String → String) (p : Parameters) : Context where
  params := p
  now    := 0
  lower  := lower

/-- `q.Steps cx parts s s'`: the statement, sent once with each of some batches,
    may take `s` to `s'`. -/
inductive Cypher.Query.Steps (q : Query) (cx : Context) :
    List (List Json) → Store → Store → Prop where
  | nil (s : Store) : Steps q cx [] s s
  | cons {batch : List Json} {parts : List (List Json)} {s s₁ s' : Store} {now : Int64}
      {rows : List Binding} (first : q.Exec (cx.sending batch now) s s₁ rows)
      (later : Steps q cx parts s₁ s') : Steps q cx (batch :: parts) s s'

/-- `schema.Loads lower p rows o s s'`: a load of the rows may run to its end,
    and take `s` to `s'`. -/
def Schema.Loads (schema : Schema) (lower : String → String) (p : Parameters) (rows : List Json)
    (o : SyncOptions) (s s' : Store) : Prop :=
  ∃ load tasks, schema.load (rows.map .ok) p o = .ok load ∧ schema.Carries p load tasks ∧
    ∃ (ε : Type) (replies : List (Reply ε)), Session lower tasks s replies s' ∧
      (play load.stages replies).progress = .finished

namespace Session

variable {lower : String → String} {ε : Type} {p : Parameters} {q : Query} {tasks : List Task}
  {indexes : List Index} {parts : List (List Json)} {s s' : Store} {replies : List (Reply ε)}

/-- To make sure of indexes changes nothing. -/
theorem of_indexes (hs : Session lower (indexes.map Task.index ++ tasks) s replies s')
    (hfin : (play ((indexes.map Task.index ++ tasks).map Task.stage) replies).progress =
      .finished) :
    ∃ replies' : List (Reply ε), Session lower tasks s replies' s' ∧
      (play (tasks.map Task.stage) replies').progress = .finished := by
  induction indexes generalizing s replies with
  | nil => exact ⟨replies, hs, hfin⟩
  | cons i rest ih =>
    obtain ⟨count, s₁, ⟨now, rows, hexec, -⟩, replies', hlater, hfin'⟩ :=
      hs.first_of_finished rfl hfin
    -- an index does not show in the graph
    obtain ⟨rfl, -⟩ := hexec
    exact ih hlater hfin'

/-- Tasks that send batches carry out their statements. -/
theorem steps (hs : Session lower (parts.map (Task.batch q p)) s replies s')
    (hfin : (play ((parts.map (Task.batch q p)).map Task.stage) replies).progress = .finished) :
    q.Steps (Context.ofRun lower p) parts s s' := by
  induction parts generalizing s replies with
  | nil =>
    rw [hs.eq_of_nil]
    exact .nil s
  | cons batch rest ih =>
    obtain ⟨count, s₁, ⟨now, rows, hexec, -⟩, replies', hlater, hfin'⟩ :=
      hs.first_of_finished rfl hfin
    exact .cons hexec (ih hlater hfin')

/-- And statements that can be carried out make such a session. -/
theorem exists_of_steps {cx : Context} (hparams : cx.params = p) (hlower : cx.lower = lower)
    (h : q.Steps cx parts s s') :
    ∃ replies : List (Reply ε), Session lower (parts.map (Task.batch q p)) s replies s' ∧
      (play ((parts.map (Task.batch q p)).map Task.stage) replies).progress = .finished := by
  subst hparams hlower
  induction h with
  | nil s => exact ⟨[], .pause [] s, rfl⟩
  | @cons batch rest s s₁ s' now rows first later ih =>
    obtain ⟨replies, hsession, hfin⟩ := ih
    exact ⟨.ok 0 :: replies,
      cons_finished (t := Task.batch q cx.params batch) rfl ⟨now, rows, first, trivial⟩ hsession
        hfin⟩

theorem exists_of_indexes (indexes : List Index) (hs : Session lower tasks s replies s')
    (hfin : (play (tasks.map Task.stage) replies).progress = .finished) :
    ∃ replies' : List (Reply ε),
      Session lower (indexes.map Task.index ++ tasks) s replies' s' ∧
        (play ((indexes.map Task.index ++ tasks).map Task.stage) replies').progress =
          .finished := by
  induction indexes with
  | nil => exact ⟨replies, hs, hfin⟩
  | cons i rest ih =>
    obtain ⟨replies', hsession, hfin'⟩ := ih
    exact ⟨.ok 0 :: replies', cons_finished (t := Task.index i) rfl
      ⟨0, [], ⟨rfl, rfl⟩, trivial⟩ hsession hfin'⟩

end Session

/-- A load that runs to its end carries out the statements of its batches. -/
theorem Schema.Loads.steps {schema : Schema} {lower : String → String} {p : Parameters}
    {rows : List Json} {o : SyncOptions} {s s' : Store} (h : schema.Loads lower p rows o s s') :
    schema.ingestion.Steps (Context.ofRun lower p) (batches o.batch.toNat rows) s s' := by
  obtain ⟨load, tasks, hload, hcarries, ε, replies, hsession, hfin⟩ := h
  obtain ⟨indexes, checked, hrows, rfl⟩ := hcarries.tasks_eq hload
  have hchecked : rows = checked := List.map_injective_iff.2 (fun _ _ => Except.ok.inj) hrows
  rw [← hcarries.stages] at hfin
  obtain ⟨replies', hsession', hfin'⟩ := hsession.of_indexes hfin
  rw [hchecked]
  exact hsession'.steps hfin'

/-- When nothing is due, a load runs to its end if its statements do. -/
theorem Schema.loads_of_steps {schema : Schema} {p : Parameters} {rows : List Json}
    (hdue : ∀ e, ¬ schema.Due (rows.map .ok) p e) {lower : String → String} {o : SyncOptions}
    {s s' : Store}
    (h : schema.ingestion.Steps (Context.ofRun lower p) (batches o.batch.toNat rows) s s') :
    schema.Loads lower p rows o s s' := by
  cases hload : schema.load (rows.map .ok) p o with
  | error e => exact absurd (Schema.load_eq_error_iff.1 hload) (hdue e)
  | ok load =>
    obtain ⟨tasks, hcarries⟩ := schema.exists_carries hload
    obtain ⟨indexes, checked, hrows, rfl⟩ := hcarries.tasks_eq hload
    have hchecked : rows = checked := List.map_injective_iff.2 (fun _ _ => Except.ok.inj) hrows
    -- no statement fails, so it does not matter how one would
    obtain ⟨replies, hsession, hfin⟩ := Session.exists_of_steps (ε := Empty) (p := p) rfl rfl h
    rw [hchecked] at hsession hfin
    obtain ⟨replies', hsession', hfin'⟩ := Session.exists_of_indexes indexes hsession hfin
    rw [hcarries.stages] at hfin'
    exact ⟨load, _, hload, hcarries, Empty, replies', hsession', hfin'⟩

/-- Statements that can be carried out with each batch can be with all of
    them. -/
theorem Cypher.Query.exists_steps {q : Query} {cx : Context} {parts : List (List Json)}
    (hruns : ∀ batch ∈ parts, ∀ s, ∃ s' rows, q.Exec (cx.sending batch 0) s s' rows)
    (s : Store) : ∃ s', q.Steps cx parts s s' := by
  induction parts generalizing s with
  | nil => exact ⟨s, .nil s⟩
  | cons batch rest ih =>
    obtain ⟨hfirst, hrest⟩ := List.forall_mem_cons.1 hruns
    obtain ⟨s₁, rows, first⟩ := hfirst s
    obtain ⟨s', later⟩ := ih hrest s₁
    exact ⟨s', .cons first later⟩

/-! ## Node schemas -/

namespace NodeSchema

variable {s : NodeSchema} {cx : Context} {rows : List Json} {parts : List (List Json)}
  {g g' h h' : Graph} {st st' : Store}

/-- Rows can be cut anywhere: what the relationships of earlier rows select is
    what they select once later rows are loaded.  They do not look at the times
    that loads record either. -/
structure Steady (s : NodeSchema) (cx : Context) (rows : List Json) (g : Graph) : Prop where
  timeless : ∀ rel ∈ s.relationships, ∀ entry ∈ rel.target.matcher, entry.1 ≠ firstSeenKey
  selected : ∀ earlier later, rows = earlier ++ later → ∀ h h', s.Loaded cx earlier g h →
    s.Loaded cx later h h' → ∀ row ∈ earlier, ∀ rel ∈ s.relationships,
      rel.target.selected cx row.member h' = rel.target.selected cx row.member h

/-- Statements load the nodes of all batches. -/
theorem steps_loaded (hs : s.Built)
    (hfree : rowsParam ∉ parameterNames (Schema.node s).references)
    (hsteps : s.ingestion.Steps cx parts st st') :
    s.Loaded cx parts.flatten st.graph st'.graph := by
  induction hsteps with
  | nil st => exact Loaded.refl s cx st.graph
  | cons first later ih => exact (ingestion_loaded hs hfree first).trans ih

/-- After some rows are loaded, the others can still be cut anywhere. -/
theorem Steady.rest {batch : List Json} (h : s.Steady cx (batch ++ rows) g)
    (hloaded : s.Loaded cx batch g g') : s.Steady cx rows g' where
  timeless := h.timeless
  selected := by
    intro earlier later hrows h₁ h₂ hearlier hlater row hrow
    apply h.selected (batch ++ earlier) later _ h₁ h₂ (hloaded.trans hearlier) hlater
    · exact List.mem_append_right _ hrow
    · rw [hrows, List.append_assoc]

/-- Then the strokes of the first rows are what they were. -/
theorem Steady.strokes_eq {batch : List Json} (h : s.Steady cx (batch ++ rows) g)
    (hbatch : s.Loaded cx batch g g₁) (hrows : s.Loaded cx rows g₁ g') :
    s.strokes cx g' batch = s.strokes cx g₁ batch := by
  apply List.flatMap_congr
  intro row hrow
  obtain ⟨n, hn⟩ := hbatch.found row hrow
  rw [hrows.gains.nodesOf_eq hn]
  apply List.flatMap_congr
  intro m _
  apply List.flatMap_congr
  intro rel hrel
  unfold relStrokes
  rw [h.selected batch rows rfl g₁ g' hbatch hrows row hrow rel hrel]

/-- Statements draw the links of all batches, as if it were one. -/
theorem steps_traces (hs : s.Built)
    (hfree : rowsParam ∉ parameterNames (Schema.node s).references)
    (hsteps : s.ingestion.Steps cx parts st st') (hsteady : s.Steady cx parts.flatten st.graph) :
    Traces cx (s.strokes cx st'.graph parts.flatten) st.graph st'.graph := by
  induction hsteps with
  | nil st => exact (Draws.refl cx st).traces
  | @cons batch rest st st₁ st' now rows first later ih =>
    have hloaded := ingestion_loaded hs hfree first
    have htraces := ingestion_traces hs hfree first
    -- at the end, the rows of the batch select what they did then
    rw [← hsteady.strokes_eq hloaded (steps_loaded hs hfree later)] at htraces
    have hall := htraces.trans (ih (hsteady.rest hloaded))
    rw [List.flatten_cons, strokes_append]
    exact hall

/-! ### Relationships to nodes of other labels -/

/-- Where no node has both the label of the schema and that of a relationship's
    target, rows make none that has. -/
theorem Loaded.apart {label : String} (hl : s.Loaded cx rows g g')
    (hlabel : label ∉ s.label :: s.extraLabels)
    (hg : ∀ n ∈ g.nodes, s.label ∈ g.labels n → label ∉ g.labels n) :
    ∀ n ∈ g'.nodes, s.label ∈ g'.labels n → label ∉ g'.labels n := by
  obtain ⟨hself, hextra⟩ := not_or.1 (mt List.mem_cons.2 hlabel)
  intro n hn hmem
  by_cases hrow : s.Reported cx rows g' n
  · rw [hl.labels n hrow, Finset.mem_union, List.mem_toFinset, not_or]
    refine ⟨?_, hextra⟩
    by_cases hold : n ∈ g.nodes
    · -- a row reports only what has the label
      obtain ⟨row, -, hid⟩ := (hl.reported_iff hold).1 hrow
      rw [if_pos hold]
      exact hg n hold hid.2.label
    · rw [if_neg hold, Finset.mem_singleton]
      exact hself
  · rw [hl.labels_eq hrow] at hmem ⊢
    exact hg n (hl.mem_of_unreported hn hrow) hmem

/-- So relationships that lead to such targets select what they did before. -/
theorem Loaded.selected_eq {e : Endpoint} (hl : s.Loaded cx rows g g')
    (hlabel : e.label ∉ s.label :: s.extraLabels)
    (hg : ∀ n ∈ g.nodes, s.label ∈ g.labels n → e.label ∉ g.labels n) (field : String → Json) :
    e.selected cx field g' = e.selected cx field g := by
  have hreported {n : Nat} (hrow : s.Reported cx rows g' n) : e.label ∉ g'.labels n := by
    obtain ⟨row, -, hid⟩ := id hrow
    exact hl.apart hlabel hg n hid.1 hid.2.label
  unfold Endpoint.selected
  rw [filter_longer hl.nodes g'.nodes_nodup]
  · apply List.filter_congr
    intro n hn
    rw [decide_eq_decide]
    by_cases hrow : s.Reported cx rows g' n
    · -- the node has the label of the schema, now and before
      obtain ⟨row, -, hid⟩ := (hl.reported_iff hn).1 hrow
      exact iff_of_false (fun hsel => hreported hrow hsel.label)
        fun hsel => hg n hn hid.2.label hsel.label
    · exact Endpoint.selects_congr (hl.others n hrow)
  · intro n hn hnew hsel
    obtain ⟨row, hfirst, -, -⟩ := hl.new n hn hnew
    have hselects : e.Selects cx field g' n := by simpa using hsel
    exact hreported ⟨row, hfirst.mem, hfirst.holds⟩ hselects.label

/-- Rows can be cut anywhere when relationships lead to nodes of other
    labels. -/
theorem steady_of_labels
    (htime : ∀ rel ∈ s.relationships, ∀ entry ∈ rel.target.matcher, entry.1 ≠ firstSeenKey)
    (hlabel : ∀ rel ∈ s.relationships, rel.target.label ∉ s.label :: s.extraLabels)
    (hg : ∀ rel ∈ s.relationships, ∀ n ∈ g.nodes, s.label ∈ g.labels n →
      rel.target.label ∉ g.labels n) (cx : Context) (rows : List Json) : s.Steady cx rows g where
  timeless := htime
  selected := by
    intro earlier later _ h h' hearlier hlater row _ rel hrel
    exact hlater.selected_eq (hlabel rel hrel) (hearlier.apart (hlabel rel hrel) (hg rel hrel)) _

end NodeSchema

/-! ## Matchlinks -/

/-- Statements of a matchlink leave the nodes, and draw the links of all batches
    as if it were one. -/
theorem Matchlink.steps_traces {link : Matchlink} (hlink : link.Built)
    (hfree : rowsParam ∉ parameterNames (Schema.matchlink link).references) {cx : Context}
    {parts : List (List Json)} {st st' : Store} (hsteps : link.ingestion.Steps cx parts st st') :
    st'.graph.nodes = st.graph.nodes ∧ (∀ n, st'.graph.node n = st.graph.node n) ∧
      Traces cx (link.strokes cx st.graph parts.flatten) st.graph st'.graph := by
  induction hsteps with
  | nil st => exact ⟨rfl, fun _ => rfl, (Draws.refl cx st).traces⟩
  | @cons batch rest st st₁ st' now rows first later ih =>
    obtain ⟨hnodes, hnode, htraces⟩ := ingestion_traces hlink hfree first
    obtain ⟨hnodes', hnode', htraces'⟩ := ih
    refine ⟨hnodes'.trans hnodes, fun n => (hnode' n).trans (hnode n), ?_⟩
    -- later batches find the same nodes
    rw [strokes_congr hnodes hnode] at htraces'
    rw [List.flatten_cons, strokes_append]
    exact htraces.trans htraces'

/-! ## All schemas -/

/-- No row gives its node the id null. -/
def Schema.Identifiable (schema : Schema) (p : Parameters) (rows : List Json) : Prop :=
  match schema with
  | .node s => ∀ row ∈ rows, (s.idOf p row).isNull = false
  | .matchlink _ => True

/-- Rows can be cut anywhere, as those of a matchlink always can. -/
def Schema.Steady (schema : Schema) (cx : Context) (rows : List Json) (g : Graph) : Prop :=
  match schema with
  | .node s => s.Steady cx rows g
  | .matchlink _ => True

/-- What feeds an ingestion is a reference of the schema. -/
theorem Schema.mem_references_of_feeds {schema : Schema} {r : Reference}
    (hr : r ∈ schema.feeds) : r ∈ schema.references := by
  cases schema with
  | node s =>
    rcases List.mem_append.1 hr with hr | hr
    · exact List.mem_append_left _ hr
    · obtain ⟨rel, hrel, hmem⟩ := List.mem_flatMap.1 hr
      exact List.mem_append_right _ (List.mem_flatMap.2 ⟨rel, hrel, List.mem_append_right _ hmem⟩)
  | matchlink m => exact List.mem_append_right _ (List.mem_append_right _ hr)

/-- The ingestion of some rows runs with each batch of them. -/
theorem Schema.ingestion_runs {schema : Schema} (hschema : schema.Built)
    (hfree : rowsParam ∉ parameterNames schema.references) {cx : Context} {rows : List Json}
    (hids : schema.Identifiable cx.params rows) (hfields : Storable cx.params rows schema.feeds)
    {batch : List Json} (hbatch : batch ⊆ rows) (now : Int64) (st : Store) :
    ∃ st' out, schema.ingestion.Exec (cx.sending batch now) st st' out := by
  have hrows := cx.value_sending_rows batch now
  have hstorable : Storable (cx.sending batch now).params batch schema.feeds := by
    intro r hr row hrow
    rw [Reference.value_sending hfree (mem_references_of_feeds hr)]
    exact hfields r hr row (hbatch hrow)
  cases schema with
  | node s =>
    apply NodeSchema.ingestion_runs hschema hrows hstorable
    intro row hrow
    rw [NodeSchema.idOf_sending hschema hfree]
    exact hids row (hbatch hrow)
  | matchlink m => exact Matchlink.ingestion_runs hrows hstorable st

/-- The nodes and the links that two lists of batches leave, when they are of
    the same rows. -/
theorem Schema.steps_agree {schema : Schema} (hschema : schema.Built)
    (hfree : rowsParam ∉ parameterNames schema.references) {cx : Context}
    {parts₁ parts₂ : List (List Json)} {s s₁ s₂ : Store} (hsame : parts₂.flatten = parts₁.flatten)
    (h₁ : schema.ingestion.Steps cx parts₁ s s₁) (h₂ : schema.ingestion.Steps cx parts₂ s s₂) :
    ∃ f, s.graph.NodesAgree s₁.graph s₂.graph f ∧
      (schema.Steady cx parts₁.flatten s.graph →
        ∃ φ, s.graph.LinksAgree s₁.graph s₂.graph f φ) := by
  cases schema with
  | node n =>
    have hloaded₁ := NodeSchema.steps_loaded hschema hfree h₁
    have hloaded₂ := NodeSchema.steps_loaded hschema hfree h₂
    rw [hsame] at hloaded₂
    obtain ⟨f, hf⟩ := hloaded₁.exists_renames hloaded₂
    refine ⟨f, hf.nodesAgree hloaded₁ hloaded₂, ?_⟩
    intro hsteady
    have hsteady₁ : n.Steady cx parts₁.flatten s.graph := hsteady
    have htraces₁ := NodeSchema.steps_traces hschema hfree h₁ hsteady₁
    have htraces₂ := NodeSchema.steps_traces hschema hfree h₂ (hsame ▸ hsteady₁)
    rw [hsame] at htraces₂
    exact NodeSchema.exists_linksAgree hf hloaded₁ hloaded₂ hsteady₁.timeless htraces₁ htraces₂
  | matchlink m =>
    obtain ⟨hnodes₁, hnode₁, htraces₁⟩ := Matchlink.steps_traces hschema hfree h₁
    obtain ⟨hnodes₂, hnode₂, htraces₂⟩ := Matchlink.steps_traces hschema hfree h₂
    rw [hsame] at htraces₂
    have hnodes := Graph.nodesAgree_of_same hnodes₁ hnodes₂ hnode₁ hnode₂
    exact ⟨id, hnodes, fun _ => Matchlink.exists_linksAgree hnodes hnodes₁ htraces₁ htraces₂⟩

/-- A load of which nothing is due runs to its end, when its values can be
    stored. -/
theorem Schema.exists_loads {schema : Schema} (hschema : schema.Built)
    (hfree : rowsParam ∉ parameterNames schema.references) {p : Parameters} {rows : List Json}
    (hdue : ∀ e, ¬ schema.Due (rows.map .ok) p e) (hids : schema.Identifiable p rows)
    (hfields : Storable p rows schema.feeds) (lower : String → String) (o : SyncOptions)
    (s : Store) : ∃ s', schema.Loads lower p rows o s s' := by
  have hruns : ∀ batch ∈ batches o.batch.toNat rows, ∀ s, ∃ s' out,
      schema.ingestion.Exec ((Context.ofRun lower p).sending batch 0) s s' out := by
    intro batch hbatch
    have hsub : batch ⊆ rows := by
      rw [← flatten_batches o.batch.toNat rows]
      exact fun row hrow => List.mem_flatten.2 ⟨batch, hbatch, hrow⟩
    exact schema.ingestion_runs hschema hfree hids hfields hsub 0
  obtain ⟨s', hsteps⟩ := Query.exists_steps hruns s
  exact ⟨s', schema.loads_of_steps hdue hsteps⟩

/-- When nothing is due, no id is null and all values can be stored, a load runs
    to its end with batches of any size.  Loads that have run to their end leave
    the same nodes.  They leave the same links too, when rows can be cut
    anywhere. -/
theorem loads_agree_for_all_batch_sizes {schema : Schema} (hschema : schema.Built)
    (hfree : rowsParam ∉ parameterNames schema.references) (p : Parameters) (rows : List Json)
    (lower : String → String) (s : Store) :
    ((∀ e, ¬ schema.Due (rows.map .ok) p e) → schema.Identifiable p rows →
      Storable p rows schema.feeds → ∀ o, ∃ s', schema.Loads lower p rows o s s') ∧
    ∀ o₁ o₂ s₁ s₂, schema.Loads lower p rows o₁ s s₁ → schema.Loads lower p rows o₂ s s₂ →
      ∃ f, s.graph.NodesAgree s₁.graph s₂.graph f ∧
        (schema.Steady (Context.ofRun lower p) rows s.graph →
          ∃ φ, s.graph.LinksAgree s₁.graph s₂.graph f φ) := by
  constructor
  · intro hdue hids hfields o
    exact schema.exists_loads hschema hfree hdue hids hfields lower o s
  · intro o₁ o₂ s₁ s₂ h₁ h₂
    have hsame : (batches o₂.batch.toNat rows).flatten = (batches o₁.batch.toNat rows).flatten := by
      rw [flatten_batches, flatten_batches]
    have hagree := schema.steps_agree hschema hfree hsame h₁.steps h₂.steps
    rw [flatten_batches] at hagree
    exact hagree

/-- Three hosts have links to their account only, so they can be sent in batches
    of any size. -/
theorem three_hosts_load_alike :
    (Schema.node Sample.hosts).Built ∧
    rowsParam ∉ parameterNames (Schema.node Sample.hosts).references ∧
    (∀ e, ¬ (Schema.node Sample.hosts).Due (Sample.threeHosts.map .ok) Sample.hostParams e) ∧
    (Schema.node Sample.hosts).Identifiable Sample.hostParams Sample.threeHosts ∧
    Storable Sample.hostParams Sample.threeHosts (Schema.node Sample.hosts).feeds ∧
    (∀ o, ∃ s', (Schema.node Sample.hosts).Loads id Sample.hostParams Sample.threeHosts o
      { graph := Sample.graph, written := [] } s') ∧
    ∀ o₁ o₂ s₁ s₂,
      (Schema.node Sample.hosts).Loads id Sample.hostParams Sample.threeHosts o₁
        { graph := Sample.graph, written := [] } s₁ →
      (Schema.node Sample.hosts).Loads id Sample.hostParams Sample.threeHosts o₂
        { graph := Sample.graph, written := [] } s₂ →
      ∃ f φ, Sample.graph.NodesAgree s₁.graph s₂.graph f ∧
        Sample.graph.LinksAgree s₁.graph s₂.graph f φ := by
  have hfree : rowsParam ∉ parameterNames (Schema.node Sample.hosts).references := by decide
  have hdue := Schema.not_due Sample.threeHosts_ne_nil Sample.threeHosts_objects
    Sample.hosts_markers Sample.hosts_given
  have hids : (Schema.node Sample.hosts).Identifiable Sample.hostParams Sample.threeHosts := by
    have hall : ∀ row ∈ Sample.threeHosts,
        (Sample.hosts.idOf Sample.hostParams row).isNull = false := by decide
    exact hall
  have hfields : ∀ r ∈ (Schema.node Sample.hosts).feeds, ∀ row ∈ Sample.threeHosts,
      (r.value Sample.hostParams row.member).isStorable = true := by decide
  have hsteady : Sample.hosts.Steady (Context.ofRun id Sample.hostParams) Sample.threeHosts
      Sample.graph :=
    NodeSchema.steady_of_labels (by decide) (by decide) (by decide) _ _
  obtain ⟨hruns, hagree⟩ := loads_agree_for_all_batch_sizes Sample.hosts_built hfree
    Sample.hostParams Sample.threeHosts id { graph := Sample.graph, written := [] }
  refine ⟨Sample.hosts_built, hfree, hdue, hids, hfields, hruns hdue hids hfields, ?_⟩
  intro o₁ o₂ s₁ s₂ h₁ h₂
  obtain ⟨f, hnodes, hlinks⟩ := hagree o₁ o₂ s₁ s₂ h₁ h₂
  obtain ⟨φ, hlinks⟩ := hlinks hsteady
  exact ⟨f, φ, hnodes, hlinks⟩

/-! ## A link that is lost -/

/-- Strokes are the only ones to draw links. -/
theorem Traces.links_eq {cx : Context} {g g' : Graph} (h : Traces cx [] g g') :
    g'.links = g.links := by
  apply eq_of_no_more h.links g'.links_nodup
  intro l hl
  by_contra hnew
  obtain ⟨k, hk, -⟩ := h.stroke l hl hnew
  cases hk

namespace Sample

/-- The host `a`, which knows `b`, and then the host `b`. -/
def pairRows : List Json := [peerRow, namelessRow]

/-- What their statements are evaluated with, but for the rows and the time. -/
def pairContext : Context := Context.ofRun id (Parameters.forRun 3)

variable {s s' : Store}

theorem peers_free : rowsParam ∉ parameterNames (Schema.node peers).references := by decide

/-- The row of `a` selects only a host that is there with the id `b`. -/
theorem selects_peer {g : Graph} {n : Nat}
    (h : knows.target.Selects pairContext peerRow.member g n) :
    (g.prop (.node n) idKey).same (.string "b") = some true :=
  h.fields _ (List.mem_singleton_self _)

/-- The row of `b` selects none. -/
theorem not_selects_null {g : Graph} {n : Nat} :
    ¬ knows.target.Selects pairContext namelessRow.member g n := by
  intro h
  have hsame : (g.prop (.node n) idKey).same .null = some true :=
    h.fields _ (List.mem_singleton_self _)
  simp at hsame

/-- As long as `b` is not there, the row of `a` draws no link. -/
theorem first_strokes_nil (hloaded : peers.Loaded pairContext [peerRow] empty s'.graph) :
    peers.strokes pairContext s'.graph [peerRow] = [] := by
  rw [List.eq_nil_iff_forall_not_mem]
  intro k hk
  obtain ⟨hrow, -, hrel, hother, hselects⟩ := NodeSchema.mem_strokes.1 hk
  rw [List.mem_singleton.1 hrow, List.mem_singleton.1 hrel] at hselects
  -- all nodes are new, and have the id of the row
  obtain ⟨row, hfirst, hid, -⟩ := hloaded.new k.other hother List.not_mem_nil
  have hsame := selects_peer hselects
  rw [hid, List.mem_singleton.1 hfirst.mem] at hsame
  revert hsame
  decide

/-- In batches of their own, the two rows draw no link. -/
theorem links_of_split (h : peers.ingestion.Steps pairContext [[peerRow], [namelessRow]]
    { graph := empty, written := [] } s') : s'.graph.links = [] := by
  cases h with
  | @cons _ _ _ s₁ _ _ _ first later =>
    cases later with
    | cons second done =>
      cases done
      -- neither statement has a stroke
      have hfirst := NodeSchema.ingestion_traces peers_built peers_free first
      rw [first_strokes_nil (NodeSchema.ingestion_loaded peers_built peers_free first)] at hfirst
      have hsecond := NodeSchema.ingestion_traces peers_built peers_free second
      have hnil : peers.strokes pairContext s'.graph [namelessRow] = [] := by
        rw [List.eq_nil_iff_forall_not_mem]
        intro k hk
        obtain ⟨hrow, -, hrel, -, hselects⟩ := NodeSchema.mem_strokes.1 hk
        rw [List.mem_singleton.1 hrow, List.mem_singleton.1 hrel] at hselects
        exact not_selects_null hselects
      rw [hnil] at hsecond
      rw [hsecond.links_eq, hfirst.links_eq]
      rfl

/-- In one batch, the row of `a` finds `b`. -/
theorem links_of_whole (h : peers.ingestion.Steps pairContext [[peerRow, namelessRow]]
    { graph := empty, written := [] } s') : s'.graph.links ≠ [] := by
  cases h with
  | cons first later =>
    cases later
    have hloaded := NodeSchema.ingestion_loaded peers_built peers_free first
    have htraces := NodeSchema.ingestion_traces peers_built peers_free first
    obtain ⟨a, ha⟩ := hloaded.found peerRow List.mem_cons_self
    obtain ⟨b, hb⟩ := hloaded.found namelessRow (List.mem_cons_of_mem _ List.mem_cons_self)
    have hselects : knows.target.Selects pairContext peerRow.member s'.graph b := by
      refine ⟨hb.2.label, ?_⟩
      intro entry hentry
      rw [List.mem_singleton.1 hentry]
      exact hb.2.id
    have hstroke : { row := peerRow, rel := knows, node := a, other := b } ∈
        peers.strokes pairContext s'.graph [peerRow, namelessRow] :=
      NodeSchema.mem_strokes.2 ⟨List.mem_cons_self, ha, List.mem_cons_self, hb.1, hselects⟩
    obtain ⟨l, hl, -⟩ := htraces.drawn _ hstroke
    exact List.ne_nil_of_mem hl

end Sample

/-- Of two hosts, the first of which knows the second, the link is lost when they
    are sent one at a time.  It is drawn when they are sent together. -/
theorem split_batches_lose_a_link :
    (Schema.node Sample.peers).Built ∧
    rowsParam ∉ parameterNames (Schema.node Sample.peers).references ∧
    (∀ e, ¬ (Schema.node Sample.peers).Due (Sample.pairRows.map .ok) (Parameters.forRun 3) e) ∧
    (Schema.node Sample.peers).Identifiable (Parameters.forRun 3) Sample.pairRows ∧
    (∀ o, ∃ s', (Schema.node Sample.peers).Loads id (Parameters.forRun 3) Sample.pairRows o
      { graph := Sample.empty, written := [] } s') ∧
    (∀ s', (Schema.node Sample.peers).Loads id (Parameters.forRun 3) Sample.pairRows
      { batchSize := 1 } { graph := Sample.empty, written := [] } s' → s'.graph.links = []) ∧
    ∀ s', (Schema.node Sample.peers).Loads id (Parameters.forRun 3) Sample.pairRows
      { batchSize := 2 } { graph := Sample.empty, written := [] } s' → s'.graph.links ≠ [] := by
  have hobjects : ∀ row ∈ Sample.pairRows, ∃ members, row = .object members := by
    intro row hrow
    rcases List.mem_pair.1 hrow with rfl | rfl
    · exact ⟨_, rfl⟩
    · exact ⟨_, rfl⟩
  have hgiven : ∀ name ∈ callerParameters Sample.peers.ingestion,
      (Parameters.forRun 3).contains name = true := by
    have hreads : ∀ name ∈ clauseParams Sample.peers.ingestion,
        name = rowsParam ∨ (Parameters.forRun 3).contains name = true := by decide
    intro name hname
    obtain ⟨hmem, hrows, -⟩ := mem_callerParameters.1 hname
    exact (hreads name hmem).resolve_left hrows
  have hbuilt : (Schema.node Sample.peers).Built := Sample.peers_built
  have hdue : ∀ e, ¬ (Schema.node Sample.peers).Due (Sample.pairRows.map .ok)
      (Parameters.forRun 3) e :=
    Schema.not_due (List.cons_ne_nil _ _) hobjects
      (fun _ hmarker => absurd hmarker List.not_mem_nil) hgiven
  have hids : (Schema.node Sample.peers).Identifiable (Parameters.forRun 3) Sample.pairRows := by
    have hall : ∀ row ∈ Sample.pairRows,
        (Sample.peers.idOf (Parameters.forRun 3) row).isNull = false := by decide
    exact hall
  have hfields : ∀ r ∈ (Schema.node Sample.peers).feeds, ∀ row ∈ Sample.pairRows,
      (r.value (Parameters.forRun 3) row.member).isStorable = true := by decide
  refine ⟨hbuilt, Sample.peers_free, hdue, hids, ?_, ?_, ?_⟩
  · intro o
    exact Schema.exists_loads hbuilt Sample.peers_free hdue hids hfields id o _
  · intro s' h
    have hparts : batches ({ batchSize := 1 } : SyncOptions).batch.toNat Sample.pairRows =
        [[Sample.peerRow], [Sample.namelessRow]] := by
      show batches 1 [Sample.peerRow, Sample.namelessRow] = _
      simp [batches]
    exact Sample.links_of_split (hparts ▸ h.steps)
  · intro s' h
    have hparts : batches ({ batchSize := 2 } : SyncOptions).batch.toNat Sample.pairRows =
        [[Sample.peerRow, Sample.namelessRow]] := by
      show batches 2 [Sample.peerRow, Sample.namelessRow] = _
      simp [batches]
    exact Sample.links_of_whole (hparts ▸ h.steps)

end GraphSync
