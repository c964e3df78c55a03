import GraphSync.Proofs.Ingestion.Postcondition

/-! # Ingestions that are sent again

    A second ingestion with the rows and parameters of the first one changes
    nothing, whatever the time.  There is one reason for each part:

    * Every row has its nodes, so none is made, and the last row that reports a
      node is the same both times (`NodesIngested.settled`).
    * Then relationships select what they have selected before, so the strokes
      are the same, and strokes that are carried out twice change nothing
      (`Draws.settled`).
    * A statement that fails leaves the graph as it is.  It fails again, for
      what it fails on is the null id of a row (`NodeSchema.ingestion_fails`). -/

namespace GraphSync

open Cypher Plan

/-- `q.Leaves cx g g'`: the statement may make `g'` of the graph `g`.  One that
    cannot be carried out leaves the graph as it is. -/
inductive Cypher.Query.Leaves (q : Query) (cx : Context) (g : Graph) : Graph → Prop where
  | done {st' : Store} {rows : List Binding}
      (exec : q.Exec cx { graph := g, written := [] } st' rows) : Leaves q cx g st'.graph
  | failed (fails : ∀ st' rows, ¬ q.Exec cx { graph := g, written := [] } st' rows) :
      Leaves q cx g g

/-- Every statement leaves some graph. -/
theorem Cypher.Query.exists_leaves (q : Query) (cx : Context) (g : Graph) :
    ∃ g', q.Leaves cx g g' := by
  by_cases hexec : ∃ st' rows, q.Exec cx { graph := g, written := [] } st' rows
  · obtain ⟨st', rows, h⟩ := hexec
    exact ⟨st'.graph, .done h⟩
  · exact ⟨g, .failed fun st' rows h => hexec ⟨st', rows, h⟩⟩

/-! ## Node schemas -/

section Nodes

variable {s : NodeSchema} {cx : Context} {batch : List Json} {g g' : Graph} {st st₁ st' : Store}
  {now : Int64}

/-- Where the nodes of a batch are as an ingestion leaves them, the first
    clauses of the same ingestion change nothing. -/
theorem NodesIngested.settled (h : NodesIngested s cx batch g g')
    (hagain : s.Populates { cx with now } batch st st') (hgraph : st.graph = g') :
    st'.graph = g' := by
  subst hgraph
  have hold (n : Nat) (hn : n ∈ st'.graph.nodes) : n ∈ st.graph.nodes := by
    by_contra hnew
    -- a new node would be the only one with its id, and that has a node already
    obtain ⟨row, hfirst, -, hall⟩ := hagain.new n hn hnew
    obtain ⟨m, hm⟩ := h.found row hfirst.mem
    exact hnew ((hall m).1 (((hagain.old m hm.1).2 _).2 hm) ▸ hm.1)
  have hids (v : Json) (n : Nat) : s.Identifies st'.graph v n ↔ s.Identifies st.graph v n := by
    constructor
    · intro hn
      exact ((hagain.old n (hold n hn.1)).2 v).1 hn
    · intro hn
      exact ((hagain.old n hn.1).2 v).2 hn
  have hreported (n : Nat) : s.Reported { cx with now } batch st'.graph n ↔
      s.Reported cx batch st.graph n := by
    unfold NodeSchema.Reported
    simp only [hids]
  have hmem (n : Nat) (hn : s.Reported cx batch st.graph n) : n ∈ st.graph.nodes := by
    obtain ⟨row, -, hrow⟩ := hn
    exact hrow.1
  refine Graph.ext_of (eq_of_no_more hagain.nodes st'.graph.nodes_nodup hold) hagain.links
    ?_ hagain.ends ?_
  · intro n
    by_cases hn : s.Reported cx batch st.graph n
    · -- the extra labels are there
      rw [hagain.labels n ((hreported n).2 hn), if_pos (hmem n hn), h.labels n hn,
        Finset.union_assoc, Finset.union_self]
    · exact Graph.labels_of_node_eq (hagain.others n (mt (hreported n).1 hn))
  · intro e key
    cases e with
    | link l => rw [hagain.link l]
    | node n =>
      by_cases hn : s.Reported cx batch st.graph n
      · by_cases hid : key = idKey
        · rw [hid, (hagain.old n (hmem n hn)).1]
        · by_cases hkey : key ∈ s.assigned.keys
          · -- the last row that reports the node is the same both times
            obtain ⟨⟨_, r⟩, hr, rfl⟩ := List.mem_map.1 hkey
            obtain ⟨row, hlast, hvalues⟩ := h.values n hn
            rw [hvalues _ r (List.mem_filter.1 hr).1 hid]
            rw [← IsLast.congr fun row _ => hids (s.idOf cx.params row) n] at hlast
            exact hagain.last hlast hr
          · rw [hagain.rest ((hreported n).2 hn) hid hkey,
              Graph.merged_old (by simpa using hmem n hn)]
      · rw [Graph.prop_of_node_eq (hagain.others n (mt (hreported n).1 hn))]

namespace NodeSchema

/-- Strokes do not depend on the time. -/
theorem strokes_now (s : NodeSchema) (cx : Context) (now : Int64) (g : Graph)
    (batch : List Json) : s.strokes { cx with now } g batch = s.strokes cx g batch := by
  unfold strokes rowStrokes relStrokes
  simp only [Endpoint.selected_now]

/-- An ingestion that runs a second time changes nothing. -/
theorem ingestion_again (hs : s.Built) (hbatch : cx.params.value rowsParam = .array batch)
    {rows rows' : List Binding} (h : s.ingestion.Exec cx st st' rows)
    (hagain : s.ingestion.Exec { cx with now } { graph := st'.graph, written := [] } st₁ rows') :
    st₁.graph = st'.graph := by
  have hbatch' : ({ cx with now } : Context).params.value rowsParam = .array batch := hbatch
  obtain ⟨p, hpopulates, hdraws⟩ := ingestion_outcome hs hbatch h
  obtain ⟨q, hpopulates', hdraws'⟩ := ingestion_outcome hs hbatch' hagain
  have hingested : NodesIngested s cx batch st.graph st'.graph :=
    ingested_of_draws (hpopulates.ingested hs) hdraws
  have hnodes : q.graph = st'.graph := hingested.settled hpopulates' rfl
  rw [strokes_now, hnodes, strokes_eq hdraws] at hdraws'
  exact hdraws.settled hdraws' hnodes

/-- An ingestion of what can be stored fails at all times, if it fails. -/
theorem ingestion_fails (hs : s.Built) (hbatch : cx.params.value rowsParam = .array batch)
    (hfields : Storable cx.params batch s.feeds)
    (hfails : ∀ st' rows, ¬ s.ingestion.Exec cx st st' rows) (now : Int64) {rows : List Binding} :
    ¬ s.ingestion.Exec { cx with now } st st' rows := by
  intro h
  have hbatch' : ({ cx with now } : Context).params.value rowsParam = .array batch := hbatch
  obtain ⟨p, hpopulates, -⟩ := ingestion_outcome hs hbatch' h
  -- every row has a node, so no id is null
  obtain ⟨q, rows', hruns⟩ := ingestion_runs hs hbatch hfields (fun row hrow => by
    obtain ⟨n, hn⟩ := hpopulates.found row hrow
    have hsame := hn.2.id
    cases hid : s.idOf cx.params row with
    | null => simp [hid] at hsame
    | _ => rfl) st
  exact hfails q rows' hruns

end NodeSchema

end Nodes

/-! ## Matchlinks -/

namespace Matchlink

variable {link : Matchlink} {cx : Context} {batch : List Json} {st st₁ st' : Store} {now : Int64}

/-- Strokes depend on the nodes, and not on the time. -/
theorem strokes_eq {ks : List Stroke} (hdraws : Draws cx ks st st') :
    link.strokes { cx with now } st'.graph batch = link.strokes cx st.graph batch := by
  unfold strokes
  simp only [Endpoint.selected_now, hdraws.selected_eq]

/-- An ingestion that runs a second time changes nothing. -/
theorem ingestion_again (hlink : link.Built)
    (hbatch : cx.params.value rowsParam = .array batch) {rows rows' : List Binding}
    (h : link.ingestion.Exec cx st st' rows)
    (hagain : link.ingestion.Exec { cx with now } { graph := st'.graph, written := [] } st₁ rows') :
    st₁.graph = st'.graph := by
  have hnodup := hlink.relationship.recorded.nodup
  have hdraws := ingestion_strokes hnodup hbatch h
  have hbatch' : ({ cx with now } : Context).params.value rowsParam = .array batch := hbatch
  have hdraws' := ingestion_strokes hnodup hbatch' hagain
  rw [strokes_eq hdraws] at hdraws'
  exact hdraws.settled hdraws' rfl

end Matchlink

/-! ## All schemas -/

/-- The references that feed what an ingestion assigns. -/
def Schema.feeds : Schema → List Reference
  | .node s => s.feeds
  | .matchlink m => m.relationship.properties.references

/-- The ingestion of an accepted schema, with rows and parameters that can be
    stored, leaves a graph that the same ingestion leaves as it is. -/
theorem ingestion_is_idempotent {schema : Schema} (hschema : schema.Built) {cx : Context}
    {batch : List Json} (hbatch : cx.params.value rowsParam = .array batch)
    (hfields : Storable cx.params batch schema.feeds) {g g' : Graph}
    (first : schema.ingestion.Leaves cx g g') (now : Int64) (g'' : Graph) :
    schema.ingestion.Leaves { cx with now } g' g'' ↔ g'' = g' := by
  have hsame {g'' : Graph} (second : schema.ingestion.Leaves { cx with now } g' g'') :
      g'' = g' := by
    cases second with
    | failed _ => rfl
    | done exec' =>
      cases schema with
      | node s =>
        cases first with
        | done exec => exact NodeSchema.ingestion_again hschema hbatch exec exec'
        | failed fails =>
          exact absurd exec' (NodeSchema.ingestion_fails hschema hbatch hfields fails now)
      | matchlink m =>
        cases first with
        | done exec => exact Matchlink.ingestion_again hschema hbatch exec exec'
        | failed fails =>
          -- an ingestion of a matchlink does not fail
          have hruns : ∃ st' rows, m.ingestion.Exec cx { graph := g, written := [] } st' rows :=
            Matchlink.ingestion_runs hbatch hfields _
          obtain ⟨st', rows, exec⟩ := hruns
          exact absurd exec (fails st' rows)
  constructor
  · exact hsame
  · intro heq
    obtain ⟨g₂, second⟩ := schema.ingestion.exists_leaves { cx with now } g'
    have hsecond := hsame second
    rw [hsecond] at second
    rw [heq]
    exact second

/-- The batch that makes two hosts of an empty graph, the later row of one
    taking back what the earlier one said, makes nothing more of them. -/
theorem peers_are_idempotent : ∃ g' : Graph, g'.nodes ≠ [] ∧
    (Schema.node Sample.peers).ingestion.Leaves Sample.peerContext Sample.empty g' ∧
      ∀ now g'', (Schema.node Sample.peers).ingestion.Leaves
        { Sample.peerContext with now } g' g'' ↔ g'' = g' := by
  have hbatch : Sample.peerContext.params.value rowsParam = .array Sample.peerRows :=
    Parameters.value_insert_self _ _ _
  have hids : ∀ row ∈ Sample.peerRows,
      (Sample.peers.idOf Sample.peerContext.params row).isNull = false := by decide
  have hfields : ∀ r ∈ (Schema.node Sample.peers).feeds, ∀ row ∈ Sample.peerRows,
      (r.value Sample.peerContext.params row.member).isStorable = true := by decide
  have hschema : (Schema.node Sample.peers).Built := Sample.peers_built
  obtain ⟨st', rows, hexec⟩ := NodeSchema.ingestion_runs Sample.peers_built hbatch hfields hids
    { graph := Sample.empty, written := [] }
  refine ⟨st'.graph, ?_, .done hexec, ?_⟩
  · obtain ⟨st₁, hpopulates, hdraws⟩ :=
      NodeSchema.ingestion_outcome Sample.peers_built hbatch hexec
    obtain ⟨n, hn⟩ := hpopulates.found Sample.peerRow List.mem_cons_self
    rw [hdraws.nodes]
    exact List.ne_nil_of_mem hn.1
  · exact ingestion_is_idempotent hschema hbatch hfields (.done hexec)

end GraphSync
