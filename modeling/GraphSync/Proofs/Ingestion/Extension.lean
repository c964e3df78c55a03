import GraphSync.Proofs.Ingestion.Outcome

/-! # What an ingestion adds to a graph

    The strokes of a batch say all that an ingestion leaves of links, and
    `Populates` says all that it leaves of nodes.  Most of what is told of other
    parts of a run needs less: an ingestion takes nothing away, and what it
    writes has what its fields give to every row.

    * `Draws.extends_graph` and `Populates.extends_graph` say this of links and
      of nodes.  Each has its values from the last that wrote to it.
    * `Matchlink.ingestion_draws` and `NodeSchema.ingestion_writes` say it of
      the two ingestions, for the rows of a batch. -/

namespace GraphSync

open Cypher Plan

/-! ## What fields give -/

/-- The fields give a key one value, whatever the row. -/
def Fields.Gives (fields : Fields) (p : Parameters) (key : String) (w : Json) : Prop :=
  (∃ r, (key, r) ∈ fields) ∧ ∀ r, (key, r) ∈ fields → ∀ field, r.value p field = w

/-- Properties among which is all that the fields give. -/
def Fields.Feeds (fields : Fields) (p : Parameters) (props : String → Json) : Prop :=
  ∀ key w, fields.Gives p key w → props key = w

/-- A key has what its only field gives. -/
theorem Fields.gives_of_get {fields : Fields} (hnodup : fields.keys.Nodup) {key : String}
    {r : Reference} (hget : fields.get? key = some r) {p : Parameters} {w : Json}
    (hvalue : ∀ field, r.value p field = w) : fields.Gives p key w := by
  have hmem := (Fields.get?_eq_some_iff hnodup).1 hget
  refine ⟨⟨r, hmem⟩, ?_⟩
  intro r' hr'
  have hsame := (Fields.get?_eq_some_iff hnodup).2 hr'
  rw [hget, Option.some.injEq] at hsame
  exact hsame ▸ hvalue

/-! ## Links -/

/-- A link between two nodes, with what the fields of its relationship give. -/
def Drawn (p : Parameters) (rel : Relationship) (n m : Nat) (x : LinkData) : Prop :=
  x.Joins rel.label rel.direction n m ∧ rel.properties.Feeds p x.props

/-- All links of a relationship between two nodes are links that `L` is about,
    and there is one. -/
def JoinedBy (L : LinkData → Prop) (rel : Relationship) (g : Graph) (n m : Nat) : Prop :=
  (∃ l, g.Joins l rel.label rel.direction n m) ∧
    ∀ l, g.Joins l rel.label rel.direction n m → L (g.link l)

namespace Draws

variable {cx : Context} {ks : List Stroke} {k : Stroke} {s s' : Store} {l : Nat}

/-- A link keeps its properties if no stroke has its ends. -/
theorem link_prop_eq (h : Draws cx ks s s')
    (hnone : l ∈ s'.graph.links → ¬ ∃ k ∈ ks, k.ends = s'.graph.ends l) :
    s'.graph.prop (.link l) = s.graph.prop (.link l) := by
  by_cases hl : l ∈ s'.graph.links
  · have hold : l ∈ s.graph.links := by
      by_contra hnew
      exact hnone hl (h.stroke l hl hnew)
    funext key
    rw [h.rest l hl fun k hk hsets => hnone hl ⟨k, hk, hsets.1⟩]
    exact Graph.merged_old ((s.graph.has_link l).2 hold) _ _
  · exact h.idle l hl

/-- Otherwise the last of these strokes has drawn it. -/
theorem exists_drawn (h : Draws cx ks s s') (hl : l ∈ s'.graph.links) (hk : k ∈ ks)
    (hends : k.ends = s'.graph.ends l) :
    ∃ k ∈ ks, Drawn cx.params k.rel k.node k.other (s'.graph.link l) := by
  obtain ⟨k, hlast⟩ := IsLast.exists_of_mem (P := fun k => k.ends = s'.graph.ends l) hk hends
  refine ⟨k, hlast.mem, (Graph.joins_iff_ends.2 ⟨hl, hlast.holds.symm⟩).2, ?_⟩
  rintro key w ⟨⟨r, hr⟩, hvalue⟩
  -- it is also the last that assigns under the key
  have hsets : IsLast (fun k => k.Sets (s'.graph.ends l) key) ks k :=
    hlast.of_imp ⟨hlast.holds, List.mem_map_of_mem hr⟩ fun _ hsets => hsets.1
  exact (h.last l hl hsets hr).trans (hvalue r hr _)

/-- Strokes take nothing away, and all that is not as it was is a link that a
    stroke has drawn. -/
theorem extends_graph (h : Draws cx ks s s') :
    s.graph.Extends [] (fun _ _ => False)
      (fun _ x => ∃ k ∈ ks, Drawn cx.params k.rel k.node k.other x) s'.graph where
  nodes := fun _ hn => h.nodes ▸ hn
  links := fun _ hl => h.mem_links hl
  labels := fun n _ => by rw [h.labels]
  added := fun n hn x hx => .inr ⟨h.nodes ▸ hn, h.labels ▸ hx⟩
  id := fun n _ => by rw [h.node]
  joins := fun _ hl _ _ _ _ => Graph.joins_of_ends_eq (h.ends_eq hl)
  node := fun n hn => .inr ⟨h.nodes ▸ hn, h.node_eq n⟩
  link := by
    intro l hl
    by_cases hstroke : ∃ k ∈ ks, k.ends = s'.graph.ends l
    · obtain ⟨k, hk, hends⟩ := hstroke
      exact .inl (h.exists_drawn hl hk hends)
    · have hold : l ∈ s.graph.links := by
        by_contra hnew
        exact hstroke (h.stroke l hl hnew)
      have hprop := h.link_prop_eq fun _ => hstroke
      exact .inr ⟨hold, Graph.link_eq_of_ends_eq (h.ends_eq hold) hprop⟩

/-- A stroke leaves its nodes joined, and by links that have been drawn only. -/
theorem joinedBy (h : Draws cx ks s s') (hk : k ∈ ks) :
    JoinedBy (fun x => ∃ k ∈ ks, Drawn cx.params k.rel k.node k.other x) k.rel s'.graph k.node
      k.other := by
  constructor
  · obtain ⟨l, hl, hends⟩ := h.drawn k hk
    exact ⟨l, Graph.joins_iff_ends.2 ⟨hl, hends⟩⟩
  · intro l hjoins
    obtain ⟨hl, hends⟩ := Graph.joins_iff_ends.1 hjoins
    exact h.exists_drawn hl hk hends.symm

end Draws

/-- The ingestion of a matchlink leaves nodes as they are, and draws a link
    between all that a row finds. -/
theorem Matchlink.ingestion_draws {link : Matchlink}
    (hnodup : link.relationship.properties.keys.Nodup) {cx : Context} {batch : List Json}
    (hbatch : cx.params.value rowsParam = .array batch) {s s' : Store} {rows : List Binding}
    (h : link.ingestion.Exec cx s s' rows) :
    s.graph.Extends [] (fun _ _ => False)
        (fun _ x => ∃ n m, (∃ row ∈ batch, link.Finds cx s.graph row n m) ∧
          Drawn cx.params link.relationship n m x) s'.graph ∧
      ∀ row ∈ batch, ∀ n m, link.Finds cx s.graph row n m →
        JoinedBy (Drawn cx.params link.relationship n m) link.relationship s'.graph n m := by
  have hdraws := ingestion_strokes hnodup hbatch h
  constructor
  · apply hdraws.extends_graph.mono (List.Subset.refl _) (fun _ _ => id)
    rintro _ x ⟨k, hk, hx⟩
    obtain ⟨hrel, hrow, hfinds⟩ := mem_strokes.1 hk
    exact ⟨k.node, k.other, ⟨k.row, hrow, hfinds⟩, hrel ▸ hx⟩
  · intro row hrow n m hfinds
    have hstroke : { row, rel := link.relationship, node := n, other := m } ∈
        link.strokes cx s.graph batch := mem_strokes.2 ⟨rfl, hrow, hfinds⟩
    obtain ⟨hone, hall⟩ := hdraws.joinedBy hstroke
    refine ⟨hone, ?_⟩
    intro l hjoins
    -- all strokes are of one relationship, so the link tells the nodes
    obtain ⟨k, hk, hx⟩ := hall l hjoins
    rw [(mem_strokes.1 hk).1] at hx
    obtain ⟨-, rfl, rfl⟩ := hx.1.unique hjoins.2
    exact hx

/-! ## Nodes -/

namespace NodeSchema

variable {s : NodeSchema} {cx : Context} {batch : List Json} {g : Graph} {st st' : Store} {n : Nat}

theorem assigned_gives {p : Parameters} {key : String} {w : Json} (hkey : key ≠ idKey)
    (h : s.properties.Gives p key w) : s.assigned.Gives p key w := by
  obtain ⟨⟨r, hr⟩, hvalue⟩ := h
  refine ⟨⟨r, List.mem_filter.2 ⟨hr, by simpa using hkey⟩⟩, ?_⟩
  intro r' hr'
  exact hvalue r' (List.mem_filter.1 hr').1

/-- A node that an ingestion writes, which was none of the schema before or had
    the label. -/
structure Written (s : NodeSchema) (cx : Context) (batch : List Json) (g : Graph) (n : Nat)
    (x : NodeData) : Prop where
  row      : ∃ row ∈ batch, s.HasId (s.idOf cx.params row) x
  labelled : n ∈ g.nodes → s.label ∈ g.labels n
  fed      : s.assigned.Feeds cx.params x.props

namespace Populates

/-- A node that a row reports has its values from the last such row. -/
theorem written_of_reported (h : s.Populates cx batch st st')
    (hn : s.Reported cx batch st'.graph n) :
    s.Written cx batch st.graph n (st'.graph.node n) := by
  obtain ⟨row, hrow, hid⟩ := hn
  refine ⟨⟨row, hrow, hid.2⟩, ?_, ?_⟩
  · intro hold
    exact (((h.old n hold).2 _).1 hid).2.label
  · rintro key w ⟨⟨r, hr⟩, hvalue⟩
    obtain ⟨row, hlast⟩ := IsLast.exists_of_mem
      (P := fun row => s.Identifies st'.graph (s.idOf cx.params row) n) hrow hid
    exact (h.last hlast hr).trans (hvalue r hr _)

/-- A node that no row reports is as it was. -/
theorem kept_of_unreported (h : s.Populates cx batch st st') (hn : n ∈ st'.graph.nodes)
    (hnone : ¬ s.Reported cx batch st'.graph n) :
    n ∈ st.graph.nodes ∧ st'.graph.node n = st.graph.node n := by
  refine ⟨?_, h.others n hnone⟩
  by_contra hnew
  obtain ⟨row, hfirst, -⟩ := h.new n hn hnew
  exact hnone ⟨row, hfirst.mem, hfirst.holds⟩

/-- To populate a graph takes nothing away, and all that is not as it was are
    nodes that have been written. -/
theorem extends_graph (h : s.Populates cx batch st st') :
    st.graph.Extends (s.label :: s.extraLabels) (s.Written cx batch st.graph) (fun _ _ => False)
      st'.graph where
  nodes := fun _ hn => h.nodes.subset hn
  links := fun _ hl => h.links ▸ hl
  labels := by
    intro n hn
    by_cases hrow : s.Reported cx batch st'.graph n
    · rw [h.labels n hrow, if_pos hn]
      exact Finset.subset_union_left
    · rw [Graph.labels_of_node_eq (h.others n hrow)]
  added := by
    intro n hn x hx
    by_cases hrow : s.Reported cx batch st'.graph n
    · -- a label of the node, or the one that it was made with, or an extra one
      rw [h.labels n hrow, Finset.mem_union, List.mem_toFinset] at hx
      rcases hx with hx | hx
      · split at hx
        · next hold => exact .inr ⟨hold, hx⟩
        · rw [Finset.mem_singleton.1 hx]
          exact .inl List.mem_cons_self
      · exact .inl (List.mem_cons_of_mem _ hx)
    · obtain ⟨hold, hsame⟩ := h.kept_of_unreported hn hrow
      exact .inr ⟨hold, Graph.labels_of_node_eq hsame ▸ hx⟩
  id := fun n hn => (h.old n hn).1
  joins := fun l _ _ _ _ _ => Graph.joins_of_ends_eq (h.ends l)
  node := by
    intro n hn
    by_cases hrow : s.Reported cx batch st'.graph n
    · exact .inl (h.written_of_reported hrow)
    · exact .inr (h.kept_of_unreported hn hrow)
  link := fun l hl => .inr ⟨h.links ▸ hl, Graph.link_eq_of_ends_eq (h.ends l) (h.link l)⟩

end Populates

/-- A link that an ingestion draws from a node of a row to what a relationship
    selects in a graph. -/
structure Attached (s : NodeSchema) (cx : Context) (batch : List Json) (g : Graph) (x : LinkData) :
    Prop where
  drawn : ∃ row ∈ batch, ∃ n, s.Identifies g (s.idOf cx.params row) n ∧
    ∃ rel ∈ s.relationships, ∃ m ∈ g.nodes, rel.target.Selects cx row.member g m ∧
      Drawn cx.params rel n m x

theorem Attached.of_strokes {x : LinkData} (h : ∃ k ∈ s.strokes cx g batch,
    Drawn cx.params k.rel k.node k.other x) : s.Attached cx batch g x := by
  obtain ⟨k, hk, hx⟩ := h
  obtain ⟨hrow, hid, hrel, hother, hselects⟩ := mem_strokes.1 hk
  exact ⟨k.row, hrow, k.node, hid, k.rel, hrel, k.other, hother, hselects, hx⟩

/-- What an ingestion does.  Each row has nodes of its id at the end, and all
    of them are written.  They are joined to all that the relationships of the
    schema select at the end.  What is not written stays as it was. -/
theorem ingestion_writes (hs : s.Built) (hbatch : cx.params.value rowsParam = .array batch)
    {rows : List Binding} (h : s.ingestion.Exec cx st st' rows) :
    st.graph.Extends (s.label :: s.extraLabels) (s.Written cx batch st.graph)
        (fun _ => s.Attached cx batch st'.graph) st'.graph ∧
      ∀ row ∈ batch, (∃ n, s.Identifies st'.graph (s.idOf cx.params row) n) ∧
        ∀ n, s.Identifies st'.graph (s.idOf cx.params row) n →
          s.Written cx batch st.graph n (st'.graph.node n) ∧
          ∀ rel ∈ s.relationships, ∀ m ∈ st'.graph.nodes,
            rel.target.Selects cx row.member st'.graph m →
              JoinedBy (s.Attached cx batch st'.graph) rel st'.graph n m := by
  obtain ⟨st₁, hpopulates, hdraws⟩ := ingestion_outcome hs hbatch h
  -- nodes stay as they are while links are drawn, so the strokes can be read off the end
  have hsame := hdraws.sameNodes
  have hattached {x : LinkData} (hx : ∃ k ∈ s.strokes cx st₁.graph batch,
      Drawn cx.params k.rel k.node k.other x) : s.Attached cx batch st'.graph x :=
    .of_strokes (strokes_eq hdraws ▸ hx)
  constructor
  · exact (hpopulates.extends_graph.mono (List.Subset.refl _) (fun _ _ => id)
      fun _ _ => False.elim).trans (hdraws.extends_graph.mono (List.nil_subset _)
        (fun _ _ => False.elim) fun _ _ => hattached)
  · intro row hrow
    obtain ⟨n, hn⟩ := hpopulates.found row hrow
    refine ⟨⟨n, (Identifies.congr hsame).2 hn⟩, ?_⟩
    intro n hn
    constructor
    · rw [hdraws.node_eq]
      exact hpopulates.written_of_reported ⟨row, hrow, (Identifies.congr hsame).1 hn⟩
    · intro rel hrel m hm hselects
      have hstroke : { row, rel, node := n, other := m } ∈ s.strokes cx st₁.graph batch :=
        strokes_eq hdraws ▸ mem_strokes.2 ⟨hrow, hn, hrel, hm, hselects⟩
      obtain ⟨hone, hall⟩ := hdraws.joinedBy hstroke
      exact ⟨hone, fun l hl => hattached (hall l hl)⟩

end NodeSchema

end GraphSync
