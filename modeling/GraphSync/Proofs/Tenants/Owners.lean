import GraphSync.Proofs.Cleanup.Targets
import GraphSync.Proofs.Tenants.Run

/-! # Owners of several tenants

    A node schema with a sub-resource joins its nodes to owners, which the
    parameters of a tenant select.  With owners apart from the nodes of the
    schema (`Tidy`), this is what the statements of a tenant do:

    * `Ingests.writes`: a batch writes a node for each row, and joins it to the
      owner of the tenant.
    * `Ingests.link_cases`: no other link of ownership appears.
    * `Sweeps.removed`: a cleanup removes stale nodes of the tenant's owner, and
      stale links.

    Neither changes the owners (`Ingests.tidy`, `Sweeps.tidy`). -/

namespace GraphSync

open Cypher Plan

variable {ι : Type}

/-! ## Nodes with a label -/

/-- The nodes with a label are the same in two graphs, with the same labels and
    properties. -/
structure Graph.SameLabelled (label : String) (g g' : Graph) : Prop where
  mem  : ∀ n, n ∈ g'.nodes ∧ label ∈ g'.labels n ↔ n ∈ g.nodes ∧ label ∈ g.labels n
  node : ∀ n ∈ g.nodes, label ∈ g.labels n → g'.node n = g.node n

namespace Graph.SameLabelled

variable {label : String}

theorem refl (label : String) (g : Graph) : g.SameLabelled label g :=
  ⟨fun _ => Iff.rfl, fun _ _ _ => rfl⟩

theorem trans {g₁ g₂ g₃ : Graph} (h₁₂ : g₁.SameLabelled label g₂) (h₂₃ : g₂.SameLabelled label g₃) :
    g₁.SameLabelled label g₃ where
  mem := fun n => (h₂₃.mem n).trans (h₁₂.mem n)
  node := by
    intro n hn hlabel
    have hn₂ := (h₁₂.mem n).2 ⟨hn, hlabel⟩
    exact (h₂₃.node n hn₂.1 hn₂.2).trans (h₁₂.node n hn hlabel)

/-- It is enough that no node with the label has been written. -/
theorem of_extends {added : List String} {N : Nat → NodeData → Prop} {L : Nat → LinkData → Prop}
    {g g' : Graph} (h : g.Extends added N L g')
    (hold : ∀ n ∈ g'.nodes, label ∈ g'.labels n → n ∈ g.nodes ∧ g'.node n = g.node n) :
    g.SameLabelled label g' where
  mem := by
    intro n
    constructor
    · rintro ⟨hn, hlabel⟩
      obtain ⟨hmem, hsame⟩ := hold n hn hlabel
      have hlabels := Graph.labels_of_node_eq hsame
      exact ⟨hmem, hlabels ▸ hlabel⟩
    · rintro ⟨hn, hlabel⟩
      exact ⟨h.nodes hn, h.labels n hn hlabel⟩
  node := fun n hn hlabel => (hold n (h.nodes hn) (h.labels n hn hlabel)).2

/-- It is enough that no node with the label is removed. -/
theorem without {g : Graph} {dead : List Element}
    (h : ∀ n, label ∈ g.labels n → .node n ∉ dead) : g.SameLabelled label (g.without dead) where
  mem := by
    intro n
    rw [Graph.mem_nodes_without]
    constructor
    · rintro ⟨⟨hn, -⟩, hlabel⟩
      exact ⟨hn, hlabel⟩
    · rintro ⟨hn, hlabel⟩
      exact ⟨⟨hn, h n hlabel⟩, hlabel⟩
  node := fun _ _ _ => rfl

end Graph.SameLabelled

namespace Tenancy

variable {T : Tenancy ι} {s : NodeSchema} {sub : Relationship} {i j : ι} {tag run : Int64}
  {p : Parameters} {batch : List Json} {g g' g₀ g₁ : Graph} {n m l : Nat} {v : Json}

/-! ## Owners -/

variable (T s sub) in
/-- The tenants share a schema whose nodes belong to owners.  An owner is no
    node of the schema, and only the relationship of ownership leads there with
    its type and direction. -/
structure Shares : Prop where
  schema  : T.schema = .node s
  built   : s.Built
  scope   : s.scope = .subResource sub
  records : T.schema.RecordsRun
  /-- The statements themselves set these two. -/
  names   : ∀ entry ∈ sub.target.matcher, entry.2.name ≠ rowsParam ∧ entry.2.name ≠ limitParam
  label   : sub.target.label ∉ s.label :: s.extraLabels
  others  : ∀ rel ∈ s.others, rel.label = sub.label → rel.direction ≠ sub.direction

variable (T) in
/-- What the owner of a tenant is selected with. -/
def owning (i : ι) : Context where
  params := T.scope i
  now := 0
  lower := T.lower

variable (T sub) in
/-- The owners that a tenant's parameters name. -/
def Owner (i : ι) (g : Graph) (m : Nat) : Prop :=
  m ∈ g.nodes ∧ sub.target.Selects (T.owning i) (fun _ => .null) g m

theorem Owner.congr (h : g.SameLabelled sub.target.label g') :
    T.Owner sub i g' m ↔ T.Owner sub i g m := by
  constructor
  · rintro ⟨hm, hselects⟩
    obtain ⟨hm₀, hlabel⟩ := (h.mem m).1 ⟨hm, hselects.label⟩
    exact ⟨hm₀, (Endpoint.selects_congr (h.node m hm₀ hlabel)).1 hselects⟩
  · rintro ⟨hm, hselects⟩
    exact ⟨((h.mem m).2 ⟨hm, hselects.label⟩).1,
      (Endpoint.selects_congr (h.node m hm hselects.label)).2 hselects⟩

/-- A statement with the parameters of a tenant selects the tenant's owners. -/
theorem Shares.selects_iff (hT : T.Shares s sub) {cx : Context} {field : String → Json}
    (hlower : cx.lower = T.lower)
    (hvalue : ∀ entry ∈ sub.target.matcher,
      cx.params.value entry.2.name = (T.scope i).value entry.2.name) :
    sub.target.Selects cx field g m ↔
      sub.target.Selects (T.owning i) (fun _ => .null) g m :=
  Endpoint.selects_of_parameters (hT.built.owner_isParameter hT.scope) hlower hvalue _ _

/-- The parameters of a tenant have the values by which its owner is found. -/
theorem Shares.value (hT : T.Shares s sub) (h : T.Gives i p) {entry : String × Reference}
    (hmem : entry ∈ sub.target.matcher) :
    p.value entry.2.name = (T.scope i).value entry.2.name := by
  apply h
  rw [hT.schema]
  exact hT.built.mem_owner_names hT.scope hmem

/-! ## What statements do -/

variable (T s) in
/-- The id of a row in a batch. -/
def sentId (p : Parameters) (batch : List Json) (row : Json) : Json :=
  s.idOf (T.sending p batch).params row

variable (T s) in
/-- A node that a batch has written in a run, which was none before or had the
    label. -/
structure Wrote (tag : Int64) (p : Parameters) (batch : List Json) (g : Graph) (n : Nat)
    (x : NodeData) : Prop where
  row      : ∃ row ∈ batch, s.HasId (T.sentId s p batch row) x
  labelled : n ∈ g.nodes → s.label ∈ g.labels n
  record   : x.props lastUpdatedKey = .ofInt64 tag

variable (T s sub) in
/-- A link that a batch of a tenant has drawn in a run. -/
structure Drew (i : ι) (tag : Int64) (p : Parameters) (batch : List Json) (g : Graph)
    (x : LinkData) : Prop where
  joins  : ∃ row ∈ batch, ∃ n, s.Identifies g (T.sentId s p batch row) n ∧
    ∃ rel ∈ s.relationships, ∃ m, x.Joins rel.label rel.direction n m ∧
      (rel = sub → T.Owner sub i g m)
  record : x.props lastUpdatedKey = .ofInt64 tag

variable (s sub) in
/-- The owners are those of `g₀`, and no node of the schema is one. -/
structure Tidy (g₀ g : Graph) : Prop where
  owners : g₀.SameLabelled sub.target.label g
  apart  : ∀ n ∈ g.nodes, s.label ∈ g.labels n → sub.target.label ∉ g.labels n

theorem Tidy.owner_iff (hg : Tidy s sub g₀ g) : T.Owner sub i g m ↔ T.Owner sub i g₀ m :=
  Owner.congr hg.owners

section Statements

variable (hT : T.Shares s sub)
include hT

theorem Shares.mem_relationships : sub ∈ s.relationships := by
  simp [NodeSchema.relationships, NodeSchema.subResource?, hT.scope]

theorem Shares.mem_others {rel : Relationship} (h : rel ∈ s.relationships) :
    rel = sub ∨ rel ∈ s.others := by
  simpa [NodeSchema.relationships, NodeSchema.subResource?, hT.scope] using h

/-- A batch of a tenant writes a node for each row, and joins it to the owner
    of the tenant.  All that it writes records the run. -/
theorem Ingests.writes (h : T.Ingests j run p batch g g') :
    g.Extends (s.label :: s.extraLabels) (T.Wrote s run p batch g)
        (fun _ => T.Drew s sub j run p batch g') g' ∧
      ∀ row ∈ batch, (∃ n, s.Identifies g' (T.sentId s p batch row) n) ∧
        ∀ n, s.Identifies g' (T.sentId s p batch row) n →
          T.Wrote s run p batch g n (g'.node n) ∧
          ∀ m, T.Owner sub j g' m →
            JoinedBy (T.Drew s sub j run p batch g') sub g' n m := by
  obtain ⟨now, st, st', rows, rfl, rfl, hexec⟩ := h.exec
  rw [hT.schema] at hexec
  have hbatch : ({ T.sending p batch with now } : Context).params.value rowsParam =
      .array batch := T.rows_sending p batch
  have htag : ({ T.sending p batch with now } : Context).params.value lastUpdatedKey =
      .ofInt64 run := (T.value_sending p batch (by decide)).trans h.marks
  have howner {field : String → Json} {g : Graph} {m : Nat} :
      sub.target.Selects { T.sending p batch with now } field g m ↔
        sub.target.Selects (T.owning j) (fun _ => .null) g m := by
    apply hT.selects_iff rfl
    intro entry hentry
    exact (T.value_sending p batch (hT.names entry hentry).1).trans (hT.value h.gives hentry)
  -- all fields that record a run read its tag
  have hmem := hT.records
  rw [hT.schema] at hmem
  have hnode {n : Nat} {x : NodeData}
      (hx : s.Written { T.sending p batch with now } batch st.graph n x) :
      T.Wrote s run p batch st.graph n x := by
    have hrecorded : s.properties.Recorded := ⟨hT.built.checked.nodup, hT.built.checked.record⟩
    refine ⟨hx.row, hx.labelled, hx.fed _ _ (NodeSchema.assigned_gives (by decide) ?_)⟩
    exact hrecorded.gives fun r hr =>
      hmem.value (Schema.mem_records_of_node (by simp [hT.scope]) hr) htag
  have hlink {x : LinkData}
      (hx : s.Attached { T.sending p batch with now } batch st'.graph x) :
      T.Drew s sub j run p batch st'.graph x := by
    obtain ⟨row, hrow, n, hn, rel, hrel, m, hm, hselects, hjoins, hfeeds⟩ := hx.drawn
    refine ⟨⟨row, hrow, n, hn, rel, hrel, m, hjoins, ?_⟩, hfeeds _ _ ?_⟩
    · rintro rfl
      exact ⟨hm, howner.1 hselects⟩
    · exact (hT.built.relationships rel hrel).recorded.gives fun r hr =>
        hmem.value (Schema.mem_records_of_relationship hrel hr) htag
  obtain ⟨hextends, hrows⟩ := NodeSchema.ingestion_writes hT.built hbatch hexec
  refine ⟨hextends.mono (List.Subset.refl _) (fun _ _ => hnode) fun _ _ => hlink, ?_⟩
  intro row hrow
  obtain ⟨hsome, hall⟩ := hrows row hrow
  refine ⟨hsome, ?_⟩
  intro n hn
  obtain ⟨hwritten, hjoined⟩ := hall n hn
  refine ⟨hnode hwritten, ?_⟩
  rintro m ⟨hm, hselects⟩
  obtain ⟨hone, hthose⟩ := hjoined sub hT.mem_relationships m hm (howner.2 hselects)
  exact ⟨hone, fun l hl => hlink (hthose l hl)⟩

theorem Ingests.tidy (h : T.Ingests j run p batch g g') (hg : Tidy s sub g₀ g) :
    Tidy s sub g₀ g' := by
  obtain ⟨hextends, -⟩ := h.writes hT
  -- a batch writes nodes of the schema only, and gives none the label of owners
  have hold : ∀ n ∈ g'.nodes, sub.target.label ∈ g'.labels n →
      n ∈ g.nodes ∧ g'.node n = g.node n := by
    intro n hn hlabel
    rcases hextends.node n hn with hwrote | hsame
    · rcases hextends.added n hn _ hlabel with hadded | ⟨hmem, hbefore⟩
      · exact absurd hadded hT.label
      · exact absurd hbefore (hg.apart n hmem (hwrote.labelled hmem))
    · exact hsame
  refine ⟨hg.owners.trans (.of_extends hextends hold), ?_⟩
  intro n hn hnode hlabel
  obtain ⟨hmem, hsame⟩ := hold n hn hlabel
  have hlabels := Graph.labels_of_node_eq hsame
  rw [hlabels] at hnode hlabel
  exact hg.apart n hmem hnode hlabel

/-- A link of ownership that a batch has drawn comes from a node of a row, and
    leads to the owner of the tenant. -/
theorem Ingests.link_cases (h : T.Ingests j run p batch g g') (hg : Tidy s sub g₀ g)
    (hl : g'.Joins l sub.label sub.direction n m) (hm : sub.target.label ∈ g'.labels m) :
    ((∃ row ∈ batch, s.Identifies g' (T.sentId s p batch row) n) ∧ T.Owner sub j g' m ∧
        g'.prop (.link l) lastUpdatedKey = .ofInt64 run) ∨
      l ∈ g.links ∧ g'.link l = g.link l := by
  obtain ⟨hextends, -⟩ := h.writes hT
  refine (hextends.link l hl.1).imp ?_ id
  rintro ⟨⟨row, hrow, n', hn', rel, hrel, m', hjoins, howner⟩, hrecord⟩
  have hjoined : (g'.link l).Joins sub.label sub.direction n m := hl.2
  rcases hT.mem_others hrel with rfl | hother
  · obtain ⟨-, rfl, rfl⟩ := hjoined.unique hjoins
    exact ⟨⟨row, hrow, hn'⟩, howner rfl, hrecord⟩
  · -- the link would run the other way, from the owner
    have hreversed := hjoined.reversed hjoins
      (Ne.symm (hT.others rel hother (hjoins.1.symm.trans hjoined.1)))
    obtain ⟨-, rfl⟩ := hreversed
    exact absurd hm ((h.tidy hT hg).apart m hn'.1 hn'.2.label)

/-- What a statement of a cleanup removes: stale nodes of the tenant's owner,
    and stale links. -/
theorem Sweeps.removed (h : T.Sweeps j run g g') :
    ∃ dead, g' = g.without dead ∧ (∀ e ∈ dead, g.prop e lastUpdatedKey ≠ .ofInt64 run) ∧
      (∀ n, .node n ∈ dead → s.label ∈ g.labels n ∧
        ∃ l m, g.Joins l sub.label sub.direction n m ∧ T.Owner sub j g m) ∧
      ∀ l, .link l ∈ dead →
        (∃ n m, g.Joins l sub.label sub.direction n m ∧ T.Owner sub j g m) ∨
          ∃ rel ∈ s.others, ∃ n m, s.label ∈ g.labels n ∧
            g.Joins l rel.label rel.direction n m := by
  obtain ⟨job, o, -, hgives, hcompares, w, hw, dead, hdead, rfl⟩ := h.removes
  rw [hT.schema] at hw
  -- the queries of a schema remove no more than they may
  have hmay {e : Element} (he : e ∈ dead) : s.MayRemove (job.context o T.lower) g e :=
    Schema.mayRemove_of_mem_targets hw (hdead he)
  have howned {n l m : Nat} (ho : s.OwnedBy sub (job.context o T.lower) g n l m) :
      s.label ∈ g.labels n ∧ g.Joins l sub.label sub.direction n m ∧ T.Owner sub j g m := by
    obtain ⟨hlabel, hjoins, hselects⟩ := ho
    refine ⟨hlabel, hjoins, (Graph.joins_mem hjoins).2, (hT.selects_iff rfl ?_).1 hselects⟩
    intro entry hentry
    exact (job.value_context o T.lower (hT.names entry hentry).2).trans (hT.value hgives hentry)
  have hscope {n : Nat} (hn : s.InScope (job.context o T.lower) g n) :
      s.label ∈ g.labels n ∧ ∃ l m, g.Joins l sub.label sub.direction n m ∧ T.Owner sub j g m := by
    unfold NodeSchema.InScope at hn
    rw [hT.scope] at hn
    obtain ⟨l, m, ho⟩ := hn
    exact ⟨(howned ho).1, l, m, (howned ho).2⟩
  refine ⟨dead, rfl, ?_, ?_, ?_⟩
  · intro e he hrecord
    have hstale : g.Stale (job.context o T.lower).params e := by
      cases e with
      | node n => exact (hmay he).2.2
      | link l => exact (hmay he).1
    unfold Graph.Stale at hstale
    rw [job.value_context o T.lower (by decide), hcompares, hrecord, Json.same_ofInt64] at hstale
    cases hstale
  · intro n hn
    exact hscope (hmay hn).2.1
  · intro l hl
    rcases (hmay hl).2 with ⟨sub', n, m, hsub, ho⟩ | ⟨rel, hrel, n, m, hn, hjoins, -⟩
    · rw [hT.scope, CleanupScope.subResource.injEq] at hsub
      subst hsub
      exact .inl ⟨n, m, (howned ho).2⟩
    · exact .inr ⟨rel, hrel, n, m, (hscope hn).1, hjoins⟩

theorem Sweeps.tidy (h : T.Sweeps j run g g') (hg : Tidy s sub g₀ g) : Tidy s sub g₀ g' := by
  obtain ⟨dead, rfl, -, hnodes, -⟩ := h.removed hT
  refine ⟨hg.owners.trans (.without ?_), ?_⟩
  · -- only nodes of the schema are removed
    intro n hlabel hn
    obtain ⟨hnode, l, m, hjoins, -⟩ := hnodes n hn
    exact hg.apart n (Graph.joins_mem hjoins).1 hnode hlabel
  · intro n hn
    exact hg.apart n (Graph.mem_nodes_without.1 hn).1

end Statements

end Tenancy

end GraphSync
