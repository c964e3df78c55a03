import GraphSync.Proofs.Ingestion.OwnWrites
import GraphSync.Proofs.Ingestion.Progress

/-! # What an ingestion leaves

    `Ingested` says what an ingestion of a node schema has made of a graph, in
    terms of the schema, the batch and the two graphs only:

    * `NodesIngested`: every row has a node, an id that had none has one new
      node, and what a row reports has the extra labels and the values of the
      last row that reports it.
    * `LinksIngested`: every row has its node joined to all that its
      relationships select, by the links that there were, or by one new link.
      They have the values of the last stroke that assigns to them.
    * Both say what stays as it was, which is all else.

    `ingestion_writes_batch` is the contract: an ingestion runs when its values
    can be stored, and whatever it leads to is what `Ingested` says. -/

namespace GraphSync

open Cypher Plan

/-! ## Outcomes -/

/-- What an ingestion of a batch has made of the nodes of a graph. -/
structure NodesIngested (s : NodeSchema) (cx : Context) (batch : List Json) (g g' : Graph) :
    Prop where
  kept   : g.nodes <+: g'.nodes
  /-- Every row has a node. -/
  found  : ∀ row ∈ batch, ∃ n, s.Identifies g' (s.idOf cx.params row) n
  /-- The id of a row that had no node has one, which is new. -/
  single : ∀ row ∈ batch, (∀ m, ¬ s.Identifies g (s.idOf cx.params row) m) →
    ∃ n, n ∉ g.nodes ∧ ∀ m, s.Identifies g' (s.idOf cx.params row) m ↔ m = n
  /-- An id that had nodes has no others. -/
  same   : ∀ v, (∃ m, s.Identifies g v m) → ∀ n, s.Identifies g' v n ↔ s.Identifies g v n
  /-- A new node has the id of a row. -/
  new    : ∀ n ∈ g'.nodes, n ∉ g.nodes → ∃ row ∈ batch,
    s.Identifies g' (s.idOf cx.params row) n ∧
      g'.prop (.node n) idKey = s.idOf cx.params row
  labels : ∀ n, s.Reported cx batch g' n → g'.labels n =
    (if n ∈ g.nodes then g.labels n else {s.label}) ∪ s.extraLabels.toFinset
  /-- The last row that reports a node gives it its values, null for none. -/
  values : ∀ n, s.Reported cx batch g' n → ∃ row,
    IsLast (fun row => s.Identifies g' (s.idOf cx.params row) n) batch row ∧
      ∀ key r, (key, r) ∈ s.properties → key ≠ idKey →
        g'.prop (.node n) key = r.value cx.params row.member
  id     : ∀ n ∈ g.nodes, g'.prop (.node n) idKey = g.prop (.node n) idKey
  rest   : ∀ n, s.Reported cx batch g' n → ∀ key ∉ s.properties.keys,
    g'.prop (.node n) key = g.merged cx.now (.node n) key
  others : ∀ n, ¬ s.Reported cx batch g' n → g'.node n = g.node n

/-- The links of a relationship between two nodes are those that there were, or
    one new link. -/
structure DrawnOnce (rel : Relationship) (g g' : Graph) (n m : Nat) : Prop where
  joined : ∃ l, g'.Joins l rel.label rel.direction n m
  same   : (∃ l, g.Joins l rel.label rel.direction n m) →
    ∀ l, g'.Joins l rel.label rel.direction n m ↔ g.Joins l rel.label rel.direction n m
  single : (∀ l, ¬ g.Joins l rel.label rel.direction n m) →
    ∀ l l', g'.Joins l rel.label rel.direction n m → g'.Joins l' rel.label rel.direction n m →
      l = l'

/-- What an ingestion of a batch has made of the links of a graph. -/
structure LinksIngested (s : NodeSchema) (cx : Context) (batch : List Json) (g g' : Graph) :
    Prop where
  kept   : g.links <+: g'.links
  ends   : ∀ l ∈ g.links, g'.ends l = g.ends l
  /-- Every row has its node joined to all that a relationship selects. -/
  drawn  : ∀ row ∈ batch, ∀ n, s.Identifies g' (s.idOf cx.params row) n →
    ∀ rel ∈ s.relationships, ∀ m ∈ g'.nodes, rel.target.Selects cx row.member g' m →
      DrawnOnce rel g g' n m
  /-- A new link is drawn by a stroke. -/
  new    : ∀ l ∈ g'.links, l ∉ g.links → ∃ k ∈ s.strokes cx g' batch, k.ends = g'.ends l
  /-- The last stroke that assigns to a link gives it its value, null for
      none. -/
  values : ∀ k ∈ s.strokes cx g' batch, ∀ l ∈ g'.links, k.ends = g'.ends l →
    ∀ key ∈ k.rel.properties.keys, ∃ k' r,
      IsLast (fun k => k.Sets (g'.ends l) key) (s.strokes cx g' batch) k' ∧
        (key, r) ∈ k'.rel.properties ∧
          g'.prop (.link l) key = r.value cx.params k'.row.member
  rest   : ∀ l ∈ g'.links, ∀ key, (∀ k ∈ s.strokes cx g' batch, ¬ k.Sets (g'.ends l) key) →
    g'.prop (.link l) key = g.merged cx.now (.link l) key

/-- What an ingestion of a batch has made of a graph. -/
structure Ingested (s : NodeSchema) (cx : Context) (batch : List Json) (g g' : Graph) : Prop where
  nodes : NodesIngested s cx batch g g'
  links : LinksIngested s cx batch g g'

/-- A stroke draws the links of its relationship between its nodes. -/
theorem Draws.drawnOnce {cx : Context} {ks : List Stroke} {s s' : Store} (h : Draws cx ks s s')
    {k : Stroke} (hk : k ∈ ks) : DrawnOnce k.rel s.graph s'.graph k.node k.other := by
  -- a link that joins the nodes has the ends of the stroke
  have hiff (g : Graph) (l : Nat) : g.Joins l k.rel.label k.rel.direction k.node k.other ↔
      l ∈ g.links ∧ g.ends l = k.ends := Graph.joins_iff_ends
  have hkept {l : Nat} (hl : s.graph.Joins l k.rel.label k.rel.direction k.node k.other) :
      s'.graph.Joins l k.rel.label k.rel.direction k.node k.other := by
    rw [hiff] at hl ⊢
    exact ⟨h.mem_links hl.1, (h.ends_eq hl.1).trans hl.2⟩
  constructor
  · obtain ⟨l, hl⟩ := h.drawn k hk
    exact ⟨l, (hiff _ l).2 hl⟩
  · intro hold l
    refine ⟨fun hl => ?_, hkept⟩
    obtain ⟨l₀, hl₀⟩ := hold
    rw [hiff] at hl hl₀ ⊢
    have hmem := h.mem_of_ends hl₀.1 hl.1 (hl.2.trans hl₀.2.symm)
    exact ⟨hmem, (h.ends_eq hmem).symm.trans hl.2⟩
  · intro hnone l l' hl hl'
    rw [hiff] at hl hl'
    refine (h.single l hl.1 (fun hold => ?_) l' hl'.1 (hl'.2.trans hl.2.symm)).symm
    exact hnone l ((hiff _ l).2 ⟨hold, (h.ends_eq hold).symm.trans hl.2⟩)

namespace NodeSchema

variable {s : NodeSchema} {cx : Context} {batch : List Json} {g g' : Graph} {st st₁ st' : Store}

/-! ## Nodes -/

/-- What is populated is what the nodes of an outcome are. -/
theorem Populates.ingested (hs : s.Built) (h : s.Populates cx batch st st₁) :
    NodesIngested s cx batch st.graph st₁.graph where
  kept := h.nodes
  found := h.found
  single := by
    intro row hrow hnone
    obtain ⟨n, hn⟩ := h.found row hrow
    have hnew : n ∉ st.graph.nodes := fun hold => hnone n (((h.old n hold).2 _).1 hn)
    obtain ⟨row', -, -, hall⟩ := h.new n hn.1 hnew
    have hsame := hn.same ((hall n).2 rfl)
    refine ⟨n, hnew, ?_⟩
    intro m
    rw [← hall]
    exact ⟨fun hm => hm.of_same hsame, fun hm => hm.of_same (Json.same_symm hsame)⟩
  same := by
    rintro v ⟨m, hm⟩ n
    have hm' := ((h.old m hm.1).2 v).2 hm
    by_cases hold : n ∈ st.graph.nodes
    · exact (h.old n hold).2 v
    · refine ⟨fun hn => ?_, fun hn => absurd hn.1 hold⟩
      -- a new node would be the only one with the id
      obtain ⟨row, -, -, hall⟩ := h.new n hn.1 hold
      have hsame := hn.same ((hall n).2 rfl)
      exact absurd ((hall m).1 (hm'.of_same hsame) ▸ hm.1) hold
  new := by
    intro n hn hnew
    obtain ⟨row, hfirst, hid, -⟩ := h.new n hn hnew
    exact ⟨row, hfirst.mem, hfirst.holds, hid⟩
  labels := h.labels
  values := by
    intro n hn
    obtain ⟨row₀, hrow₀, hn₀⟩ := hn
    obtain ⟨row, hlast⟩ := IsLast.exists_of_mem
      (P := fun row => s.Identifies st₁.graph (s.idOf cx.params row) n) hrow₀ hn₀
    refine ⟨row, hlast, ?_⟩
    intro key r hr hne
    exact h.last hlast (List.mem_filter.2 ⟨hr, by simpa using hne⟩)
  id := fun n hn => (h.old n hn).1
  rest := by
    intro n hn key hkey
    refine h.rest hn (fun heq => hkey (heq ▸ hs.checked.id)) fun hmem => hkey ?_
    exact (List.filter_sublist.map _).subset hmem
  others := h.others

/-- The nodes of an outcome are about nodes only. -/
theorem ingested_of_draws {ks : List Stroke} (h : NodesIngested s cx batch g st₁.graph)
    (hdraws : Draws cx ks st₁ st') : NodesIngested s cx batch g st'.graph := by
  have hids : s.Identifies st'.graph = s.Identifies st₁.graph := by
    funext v n
    exact propext (Identifies.congr hdraws.sameNodes)
  have hreported : s.Reported cx batch st'.graph = s.Reported cx batch st₁.graph := by
    funext n
    unfold Reported
    rw [hids]
  constructor
  · rw [hdraws.nodes]
    exact h.kept
  · rw [hids]
    exact h.found
  · rw [hids]
    exact h.single
  · rw [hids]
    exact h.same
  · simp only [hdraws.nodes, hids, hdraws.node]
    exact h.new
  · rw [hreported, hdraws.labels]
    exact h.labels
  · simp only [hreported, hids, hdraws.node]
    exact h.values
  · simp only [hdraws.node]
    exact h.id
  · simp only [hreported, hdraws.node]
    exact h.rest
  · simp only [hreported, hdraws.node_eq]
    exact h.others

/-! ## Links -/

/-- Strokes that follow what has been populated draw the links of an
    outcome. -/
theorem Populates.links_ingested (h : s.Populates cx batch st st₁)
    (hdraws : Draws cx (s.strokes cx st₁.graph batch) st₁ st') :
    LinksIngested s cx batch st.graph st'.graph := by
  have hstrokes : s.strokes cx st'.graph batch = s.strokes cx st₁.graph batch := strokes_eq hdraws
  have hmerged (l : Nat) (key : String) : st₁.graph.merged cx.now (.link l) key =
      st.graph.merged cx.now (.link l) key := by
    unfold Graph.merged Graph.has
    rw [h.links, h.link]
  constructor
  · rw [← h.links]
    exact hdraws.links
  · intro l hl
    rw [hdraws.ends_eq (h.links ▸ hl), h.ends]
  · intro row hrow n hn rel hrel m hm hselects
    have hmem : { row, rel, node := n, other := m } ∈ s.strokes cx st₁.graph batch :=
      hstrokes ▸ mem_strokes.2 ⟨hrow, hn, hrel, hm, hselects⟩
    obtain ⟨hjoined, hsame, hsingle⟩ := hdraws.drawnOnce hmem
    -- what is populated has the links that there were
    have hiff (l : Nat) : st₁.graph.Joins l rel.label rel.direction n m ↔
        st.graph.Joins l rel.label rel.direction n m := by
      rw [Graph.joins_iff_ends, Graph.joins_iff_ends, h.links, h.ends]
    simp only [hiff] at hsame hsingle
    exact ⟨hjoined, hsame, hsingle⟩
  · intro l hl hnew
    rw [hstrokes]
    exact hdraws.stroke l hl (h.links.symm ▸ hnew)
  · intro k hk l hl hends key hkey
    rw [hstrokes] at hk ⊢
    obtain ⟨k', hlast⟩ := IsLast.exists_of_mem
      (P := fun k => k.Sets (st'.graph.ends l) key) hk ⟨hends, hkey⟩
    obtain ⟨⟨key', r⟩, hr, rfl⟩ := List.mem_map.1 hlast.holds.2
    exact ⟨k', r, hlast, hr, hdraws.last l hl hlast hr⟩
  · intro l hl key hnone
    rw [hstrokes] at hnone
    rw [hdraws.rest l hl hnone, hmerged]

end NodeSchema

/-! ## The contract -/

/-- An ingestion of an accepted schema runs on every graph, when the ids of its
    rows are scalars and the values that it assigns can be stored.  Whenever it
    runs, it leaves what `Ingested` says. -/
theorem ingestion_writes_batch {s : NodeSchema} (hs : s.Built) {cx : Context} {batch : List Json}
    (hbatch : cx.params.value rowsParam = .array batch) (st : Store) :
    ((∀ row ∈ batch, (s.idOf cx.params row).isScalar = true) →
        Storable cx.params batch s.feeds → ∃ st' rows, s.ingestion.Exec cx st st' rows) ∧
      ∀ st' rows, s.ingestion.Exec cx st st' rows → Ingested s cx batch st.graph st'.graph := by
  constructor
  · intro hids hfields
    refine NodeSchema.ingestion_runs hs hbatch hfields ?_ st
    intro row hrow
    have hscalar := hids row hrow
    cases hid : s.idOf cx.params row with
    | null =>
      rw [hid] at hscalar
      cases hscalar
    | _ => rfl
  · intro st' rows h
    obtain ⟨st₁, hpopulates, hdraws⟩ := NodeSchema.ingestion_outcome hs hbatch h
    exact ⟨NodeSchema.ingested_of_draws (hpopulates.ingested hs) hdraws,
      hpopulates.links_ingested hdraws⟩

/-! ## A batch that reports a host twice -/

namespace Sample

/-- The relationship to a host that the row names. -/
def knows : Relationship where
  label := "KNOWS"
  direction := .outward
  target := { label := "Host", matcher := [(idKey, .row "peer")] }
  properties := [(lastUpdatedKey, .param lastUpdatedKey)]
  source := none

/-- Hosts with names, and the hosts that they know. -/
def peers : NodeSchema where
  label := "Host"
  properties := [(idKey, .row "id"), (lastUpdatedKey, .param lastUpdatedKey), ("name", .row "name")]
  extraLabels := ["Asset"]
  scope := .relationshipsOnly
  others := [knows]

theorem peers_built : peers.Built := by
  refine ⟨⟨{ label := "Host", properties := peers.properties, extraLabels := ["Asset"],
             others := peers.others }, rfl⟩, ?_⟩
  intro rel hrel
  obtain rfl : rel = knows := List.mem_singleton.1 hrel
  exact ⟨{ label := "KNOWS", direction := .outward, target := some knows.target
           properties := knows.properties }, rfl⟩

/-- The host `a`, which knows `b`. -/
def peerRow : Json := .object [("id", .string "a"), ("peer", .string "b")]

/-- The host `b`, with a name. -/
def namedRow : Json := .object [("id", .string "b"), ("name", .string "web")]

/-- The host `b`, without one. -/
def namelessRow : Json := .object [("id", .string "b")]

/-- The later row of `b` takes its name away. -/
def peerRows : List Json := [peerRow, namedRow, namelessRow]

/-- The statement of the third run. -/
def peerContext : Context where
  params := (Parameters.forRun 3).insert rowsParam (.array peerRows)
  now := 7
  lower := id

end Sample

/-- From an empty graph the batch makes two hosts.  The later row of `b` takes
    its name away again, and `a` is joined to `b`, which comes after it. -/
theorem peers_are_ingested :
    (∃ st' rows, Sample.peers.ingestion.Exec Sample.peerContext
        { graph := Sample.empty, written := [] } st' rows) ∧
      ∀ st' rows, Sample.peers.ingestion.Exec Sample.peerContext
          { graph := Sample.empty, written := [] } st' rows →
        ∃ a b l, a ≠ b ∧
          (∀ n, Sample.peers.Identifies st'.graph (.string "a") n ↔ n = a) ∧
          (∀ n, Sample.peers.Identifies st'.graph (.string "b") n ↔ n = b) ∧
          st'.graph.labels b = {"Host", "Asset"} ∧ st'.graph.prop (.node b) "name" = .null ∧
          ∀ k, st'.graph.Joins k "KNOWS" .outward a b ↔ k = l := by
  have hbatch : Sample.peerContext.params.value rowsParam = .array Sample.peerRows :=
    Parameters.value_insert_self _ _ _
  obtain ⟨hruns, hleaves⟩ := ingestion_writes_batch Sample.peers_built hbatch
    { graph := Sample.empty, written := [] }
  have hids : ∀ row ∈ Sample.peerRows,
      (Sample.peers.idOf Sample.peerContext.params row).isScalar = true := by decide
  have hfields : ∀ r ∈ Sample.peers.feeds, ∀ row ∈ Sample.peerRows,
      (r.value Sample.peerContext.params row.member).isStorable = true := by decide
  refine ⟨hruns hids hfields, ?_⟩
  intro st' rows h
  obtain ⟨hnodes, hlinks⟩ := hleaves st' rows h
  have hnone (v : Json) (m : Nat) : ¬ Sample.peers.Identifies Sample.empty v m := by
    intro hm
    cases hm.1
  obtain ⟨a, -, ha⟩ := hnodes.single Sample.peerRow List.mem_cons_self (hnone _)
  obtain ⟨b, hbnew, hb⟩ := hnodes.single Sample.namelessRow (by simp [Sample.peerRows]) (hnone _)
  change ∀ n, Sample.peers.Identifies st'.graph (.string "a") n ↔ n = a at ha
  change ∀ n, Sample.peers.Identifies st'.graph (.string "b") n ↔ n = b at hb
  have hida := (ha a).2 rfl
  have hidb := (hb b).2 rfl
  have hne : a ≠ b := by
    intro heq
    have hsame : (Json.string "a").same (.string "b") = some true := (heq ▸ hida).same hidb
    revert hsame
    decide
  have hreported : Sample.peers.Reported Sample.peerContext Sample.peerRows st'.graph b :=
    ⟨Sample.namelessRow, by simp [Sample.peerRows], hidb⟩
  refine ⟨a, b, ?_⟩
  -- the third row is the last one that reports `b`
  have hname : st'.graph.prop (.node b) "name" = .null := by
    obtain ⟨row, hlast, hvalues⟩ := hnodes.values b hreported
    obtain rfl : row = Sample.namelessRow :=
      IsLast.eq_last (l := [Sample.peerRow, Sample.namedRow]) hlast hidb
    exact hvalues "name" (.row "name") (by simp [Sample.peers]) (by decide)
  have hlabels : st'.graph.labels b = {"Host", "Asset"} := by
    rw [hnodes.labels b hreported, if_neg hbnew]
    decide
  -- the first row selects `b`
  have hselects : Sample.knows.target.Selects Sample.peerContext Sample.peerRow.member
      st'.graph b := by
    refine ⟨hidb.2.label, ?_⟩
    intro entry hentry
    obtain rfl : entry = (idKey, .row "peer") := List.mem_singleton.1 hentry
    exact hidb.2.id
  obtain ⟨⟨l, hl⟩, -, hsingle⟩ := hlinks.drawn Sample.peerRow List.mem_cons_self a hida
    Sample.knows List.mem_cons_self b hidb.1 hselects
  refine ⟨l, hne, ha, hb, hlabels, hname, ?_⟩
  intro k
  constructor
  · intro hk
    refine hsingle (fun k hk => ?_) k l hk hl
    cases hk.1
  · rintro rfl
    exact hl

end GraphSync
