import GraphSync.Proofs.Ingestion.Population

/-! # What an ingestion of a node schema does

    An ingestion populates the graph with the nodes of its batch, and then
    carries out the strokes of the batch: every row draws each relationship from
    every node of its id to all that the relationship selects, in the graph with
    those nodes.  `NodeSchema.ingestion_outcome` puts the two together. -/

namespace GraphSync

open Cypher Plan

namespace NodeSchema

variable {s : NodeSchema} {cx : Context} {r : Reference} {row : Json} {batch : List Json}
  {g : Graph} {st st' : Store} {n : Nat} {rel : Relationship} {rels : List Relationship}

/-! ## Strokes of a batch -/

/-- The strokes by which a row draws a relationship from its node. -/
def relStrokes (cx : Context) (g : Graph) (row : Json) (n : Nat) (rel : Relationship) :
    List Stroke :=
  (rel.target.selected cx row.member g).map fun m => { row, rel, node := n, other := m }

/-- The strokes by which a row draws relationships from its node. -/
def rowStrokes (cx : Context) (g : Graph) (rels : List Relationship) (row : Json) (n : Nat) :
    List Stroke :=
  rels.flatMap (relStrokes cx g row n)

/-- The strokes of a batch, in the order of the rows, of the nodes of an id, of
    the relationships and of what they select. -/
def strokes (s : NodeSchema) (cx : Context) (g : Graph) (batch : List Json) : List Stroke :=
  batch.flatMap fun row =>
    (s.nodesOf g (s.idOf cx.params row)).flatMap (rowStrokes cx g s.relationships row)

theorem mem_strokes {k : Stroke} : k ∈ s.strokes cx g batch ↔
    k.row ∈ batch ∧ s.Identifies g (s.idOf cx.params k.row) k.node ∧ k.rel ∈ s.relationships ∧
      k.other ∈ g.nodes ∧ k.rel.target.Selects cx k.row.member g k.other := by
  simp only [strokes, rowStrokes, relStrokes, List.mem_flatMap, List.mem_map, mem_nodesOf,
    Endpoint.mem_selected]
  constructor
  · rintro ⟨row, hrow, n, hn, rel, hrel, m, hm, rfl⟩
    exact ⟨hrow, hn, hrel, hm⟩
  · intro h
    obtain ⟨row, rel, n, m⟩ := k
    obtain ⟨hrow, hn, hrel, hm⟩ := h
    exact ⟨row, hrow, n, hn, rel, hrel, m, hm, rfl⟩

/-! ## Drawing links -/

/-- The row that stands for a stroke. -/
theorem fits_relStrokes : ∀ k ∈ relStrokes cx g row n rel,
    Fits "i" "j" rel k (target k.row k.node k.other) := by
  intro k hk
  obtain ⟨m, -, rfl⟩ := List.mem_map.1 hk
  exact ⟨rfl, target_joined row n m, by simp [target, bound, unbound, rowAlias]⟩

theorem rows_eq_relStrokes : (rel.target.selected cx row.member g).map (target row n) =
    (relStrokes cx g row n rel).map fun k => target k.row k.node k.other := by
  simp only [relStrokes, List.map_map, Function.comp_def]

/-- One branch carries out the strokes of its relationship. -/
theorem attach_strokes (hnodup : rel.properties.keys.Nodup) {p : State}
    (h : clausesExec cx (attach rel) { store := st, rows := [bound row n] } p) :
    Draws cx (relStrokes cx st.graph row n rel) st p.store := by
  obtain ⟨p₁, hwith, p₂, hmatch, p₃, hfilter, hlink⟩ := h
  rw [attach_rows hwith hmatch hfilter, rows_eq_relStrokes] at hlink
  refine draws_strokes ⟨by decide, by decide, by decide⟩ hnodup ?_ hlink
  rw [List.forall₂_map_right_iff, List.forall₂_same]
  exact fits_relStrokes

/-- What endpoints select is the same where the nodes are, so strokes are. -/
theorem rowStrokes_eq {ks : List Stroke} (h : Draws cx ks st st') :
    rowStrokes cx st'.graph rels row n = rowStrokes cx st.graph rels row n := by
  unfold rowStrokes
  congr 1
  funext rel
  unfold relStrokes
  rw [h.selected_eq]

/-- The strokes of a batch depend on the nodes only. -/
theorem strokes_eq {ks : List Stroke} (h : Draws cx ks st st') :
    s.strokes cx st'.graph batch = s.strokes cx st.graph batch := by
  have hnodes (v : Json) : s.nodesOf st'.graph v = s.nodesOf st.graph v :=
    nodesOf_congr h.nodes fun n => Identifies.congr h.sameNodes
  unfold strokes
  congr 1
  funext row
  rw [hnodes]
  congr 1
  funext n
  exact rowStrokes_eq h

/-- All branches of a row. -/
theorem branches_strokes (hnodup : ∀ rel ∈ rels, rel.properties.keys.Nodup)
    (h : branchesExec cx (rels.map attach) (bound row n) st st') :
    Draws cx (rowStrokes cx st.graph rels row n) st st' := by
  induction rels generalizing st with
  | nil =>
    obtain rfl : st' = st := h
    exact Draws.refl cx _
  | cons rel rest ih =>
    obtain ⟨p, hbranch, hlater⟩ := h
    obtain ⟨hrel, hrest⟩ := List.forall_mem_cons.1 hnodup
    have hfirst := attach_strokes hrel hbranch
    have hothers := ih hrest hlater
    rw [rowStrokes_eq hfirst] at hothers
    exact hfirst.trans hothers

/-- All rows that bind nodes. -/
theorem rows_strokes (hnodup : ∀ rel ∈ rels, rel.properties.keys.Nodup)
    {pairs : List (Json × Nat)} {out : List Binding}
    (h : EachRow (fun b s out s' => branchesExec cx (rels.map attach) b s s' ∧ out = [b])
      (pairs.map fun q => bound q.1 q.2) st out st') :
    Draws cx (pairs.flatMap fun q => rowStrokes cx st.graph rels q.1 q.2) st st' := by
  induction pairs generalizing st out with
  | nil =>
    obtain ⟨-, rfl⟩ := h
    exact Draws.refl cx _
  | cons q rest ih =>
    obtain ⟨out₁, st₁, out₂, ⟨hfirst, -⟩, hlater, -⟩ := h
    have hdraws := branches_strokes hnodup hfirst
    have hothers := ih hlater
    simp only [rowStrokes_eq hdraws] at hothers
    exact hdraws.trans hothers

/-- The last clauses of an ingestion carry out the strokes of the batch. -/
theorem draws_batch (hnodup : ∀ rel ∈ s.relationships, rel.properties.keys.Nodup)
    {q : State}
    (h : clausesExec cx
      (if s.relationships.isEmpty then []
        else [.withVars ["i", rowAlias] [] none, .call (s.relationships.map attach)])
      { store := st, rows := s.spread cx.params st.graph batch } q) :
    Draws cx (s.strokes cx st.graph batch) st q.store := by
  split at h
  · next hnone =>
    cases h
    have hstrokes : s.strokes cx st.graph batch = [] := by
      simp [strokes, rowStrokes, List.isEmpty_iff.1 hnone]
    rw [hstrokes]
    exact Draws.refl cx _
  · obtain ⟨p₁, ⟨hstore, hwith⟩, q', hcall, rfl⟩ := h
    -- the rows are those of the batch with the nodes of their ids
    let pairs := batch.flatMap fun row =>
      (s.nodesOf st.graph (s.idOf cx.params row)).map fun n => (row, n)
    have hspread : s.spread cx.params st.graph batch = pairs.map fun q => bound q.1 q.2 := by
      simp only [spread, pairs, List.map_flatMap, List.map_map, Function.comp_def]
    have hkept : p₁.rows = pairs.map fun q => bound q.1 q.2 := by
      rw [show p₁.rows = _ from hwith, hspread]
      simp only [List.all_nil, List.filter_true, List.map_map]
      exact List.map_congr_left fun q _ => only_bound q.1 q.2
    change EachRow (fun b s₁ out s₂ => branchesExec cx (s.relationships.map attach) b s₁ s₂ ∧
      out = [b]) p₁.rows p₁.store q.rows q.store at hcall
    rw [hkept, hstore] at hcall
    have hdraws := rows_strokes hnodup hcall
    have hstrokes : s.strokes cx st.graph batch =
        pairs.flatMap fun q => rowStrokes cx st.graph s.relationships q.1 q.2 := by
      simp only [strokes, pairs, List.flatMap_assoc, List.flatMap_map]
    rw [hstrokes]
    exact hdraws

/-- An ingestion populates the graph with the nodes of its batch, and carries
    out the strokes of the batch there. -/
theorem ingestion_outcome (hs : s.Built) (hbatch : cx.params.value rowsParam = .array batch)
    {rows : List Binding} (h : s.ingestion.Exec cx st st' rows) :
    ∃ st₁, s.Populates cx batch st st₁ ∧ Draws cx (s.strokes cx st₁.graph batch) st₁ st' := by
  obtain ⟨r, hr⟩ := hs.exists_id
  obtain ⟨p, hnodes, hlinks⟩ := clausesExec_append.1 h
  obtain ⟨hpopulates, hrows⟩ := populates hr hs.checked.nodup hbatch hnodes
  have hstate : p = { store := p.store, rows := s.spread cx.params p.store.graph batch } := by
    rw [← hrows]
  rw [hstate] at hlinks
  exact ⟨p.store, hpopulates,
    draws_batch (fun rel hrel => (hs.relationships rel hrel).recorded.nodup) hlinks⟩

end NodeSchema

end GraphSync
