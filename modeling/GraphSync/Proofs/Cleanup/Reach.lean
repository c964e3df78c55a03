import GraphSync.Proofs.Cleanup.Targets
import GraphSync.Proofs.Ingestion.Outcome
import GraphSync.Proofs.Tenants.Links
import GraphSync.Proofs.Tenants.Nodes

/-! # What a cleanup reaches

    An ingestion and a cleanup are compiled apart, and have to agree on what
    belongs to a schema.  `Query.ageless` is a cleanup statement without its
    comparison of the run, so its targets are all that it can ever delete.

    * `mem_ageless_ownedNodes` to `Matchlink.mem_ageless`: what that is, for
      each statement.
    * `NodeSchema.Reaches`: all that one ingestion has written is in the reach
      of the statement that is for it.
    * `Matchlink.WritesOwn`: what every batch of a load keeps.

    `cleanup_reaches_what_is_written` puts them together.  Nodes are reached
    by way of their owner, so there has to be one after the ingestion.  An
    ingestion that writes to its own owner may leave none
    (`renamed_owner_is_out_of_reach`). -/

namespace GraphSync

open Cypher Plan

/-! ## Statements without their comparison of the run -/

/-- The comparison by which a cleanup tells what another run has written. -/
def Cypher.Condition.comparesRun : Condition → Bool
  | .ne (.property _ key) (.param name) => key == lastUpdatedKey && name == updateTagParam
  | _ => false

/-- The conditions without that comparison. -/
def Cypher.ageless (conditions : List Condition) : List Condition :=
  conditions.filter fun c => !c.comparesRun

/-- The clause without that comparison. -/
def Cypher.Clause.ageless : Clause → Clause
  | .matching optional path conditions => .matching optional path (Cypher.ageless conditions)
  | clause => clause

/-- The statement without that comparison. -/
def Cypher.Query.ageless (q : Query) : Query := q.map Clause.ageless

/-- The sweep without that comparison. -/
def Cypher.Sweep.ageless (w : Sweep) : Sweep where
  reads := w.reads.map fun r => (r.1, Cypher.ageless r.2)
  detach := w.detach
  var := w.var
  bound := by
    rw [List.flatMap_map]
    exact w.bound
  timeless := by
    intro r hr
    obtain ⟨r₀, hr₀, rfl⟩ := List.mem_map.1 hr
    exact ⟨(w.timeless r₀ hr₀).1, fun c hc => (w.timeless r₀ hr₀).2 c (List.mem_filter.1 hc).1⟩

theorem Cypher.Sweep.ageless_query (w : Sweep) : w.query.ageless = w.ageless.query := by
  unfold query Query.ageless ageless
  rw [List.map_append, List.map_map, List.map_map]
  rfl

/-- The conditions of an endpoint do not compare the run. -/
theorem Plan.ageless_endpointConditions (var : String) (e : Endpoint) :
    Cypher.ageless (endpointConditions var e) = endpointConditions var e := by
  unfold Cypher.ageless
  rw [List.filter_eq_self]
  intro c hc
  obtain ⟨⟨field, r⟩, -, hcond⟩ := List.mem_filterMap.1 hc
  unfold fieldCondition at hcond
  cases hmode : r.mode <;> simp only [hmode, Option.some.injEq, reduceCtorEq] at hcond
  all_goals
    rw [← hcond]
    rfl

theorem Plan.ageless_stale (var : String) (conditions : List Condition) :
    Cypher.ageless (stale var :: conditions) = Cypher.ageless conditions := rfl

variable {cx cx' : Context} {g : Graph} {e : Element} {st st' : Store} {batch : List Json}

/-- No conditions hold of anything. -/
theorem Plan.means_nil (var : String) : Means cx g var [] fun _ => True := by
  intro b e _
  simp

/-! ## The reach of each statement -/

namespace NodeSchema

variable {s : NodeSchema} {sub rel : Relationship}

theorem mem_ageless_ownedNodes :
    e ∈ (s.cleanupOwnedNodes sub).ageless.targets cx g ↔
      ∃ n l owner, e = .node n ∧ s.OwnedBy sub cx g n l owner := by
  have hreads : (s.ownedNodesSweep sub).ageless.reads =
      [(s.ownedPath sub none, [] ++ endpointConditions "owner" sub.target)] := by
    simp [Sweep.ageless, ownedNodesSweep, ageless_stale, ageless_endpointConditions]
  have hquery : (s.cleanupOwnedNodes sub).ageless = (s.ownedNodesSweep sub).ageless.query :=
    (s.ownedNodesSweep sub).ageless_query
  rw [hquery, mem_targets_owned hreads (means_nil "n") (by simp) fun _ _ _ => rfl]
  simp only [and_true]

theorem mem_ageless_ownerLinks :
    e ∈ (s.cleanupOwnerLinks sub).ageless.targets cx g ↔
      ∃ n l owner, e = .link l ∧ s.OwnedBy sub cx g n l owner := by
  have hreads : (s.ownerLinksSweep sub).ageless.reads =
      [(s.ownedPath sub (some "s"), [] ++ endpointConditions "owner" sub.target)] := by
    simp [Sweep.ageless, ownerLinksSweep, ageless_stale, ageless_endpointConditions]
  have hquery : (s.cleanupOwnerLinks sub).ageless = (s.ownerLinksSweep sub).ageless.query :=
    (s.ownerLinksSweep sub).ageless_query
  rw [hquery, mem_targets_owned hreads (means_nil "s") (by simp [rowAlias]) fun _ _ _ => rfl]
  simp only [and_true]

theorem mem_ageless_ownedLinks :
    e ∈ (s.cleanupOwnedLinks sub rel).ageless.targets cx g ↔
      ∃ n k owner l m, e = .link l ∧ s.OwnedBy sub cx g n k owner ∧
        g.Joins l rel.label rel.direction n m ∧ rel.target.label ∈ g.labels m := by
  have hreads : (s.ownedLinksSweep sub rel).ageless.reads =
      [(s.ownedPath sub none, endpointConditions "owner" sub.target),
        (linkPath { var := some "n" } rel, [])] := by
    simp only [Sweep.ageless, ownedLinksSweep, List.map_cons, List.map_nil, ageless_stale,
      ageless_endpointConditions]
    rfl
  have hquery : (s.cleanupOwnedLinks sub rel).ageless =
      (s.ownedLinksSweep sub rel).ageless.query := (s.ownedLinksSweep sub rel).ageless_query
  rw [hquery, mem_targets_linksOwned hreads rfl (means_nil "r")]
  simp only [and_true]

theorem mem_ageless_allNodes :
    e ∈ s.cleanupAllNodes.ageless.targets cx g ↔
      ∃ n ∈ g.nodes, e = .node n ∧ s.label ∈ g.labels n := by
  have hquery : s.cleanupAllNodes.ageless = s.allNodesSweep.ageless.query :=
    s.allNodesSweep.ageless_query
  rw [hquery, mem_targets_labelled rfl rfl (means_nil "n")]
  simp only [and_true]

theorem mem_ageless_allLinks :
    e ∈ (s.cleanupAllLinks rel).ageless.targets cx g ↔
      ∃ n l m, e = .link l ∧ s.label ∈ g.labels n ∧ g.Joins l rel.label rel.direction n m ∧
        rel.target.label ∈ g.labels m := by
  have hquery : (s.cleanupAllLinks rel).ageless = (s.allLinksSweep rel).ageless.query :=
    (s.allLinksSweep rel).ageless_query
  have hreads : (s.allLinksSweep rel).ageless.reads =
      [({ start := { var := some "n", labels := [s.label] }
          hops := [({ var := some "r", type := rel.label, arrow := arrow rel.direction },
                    { labels := [rel.target.label] })] }, [])] := rfl
  rw [hquery, mem_targets_links hreads rfl (by simp)]
  simp

end NodeSchema

/-- A link of a matchlink with the scope markers of the parameters. -/
structure Matchlink.InScope (link : Matchlink) (cx : Context) (g : Graph) (l : Nat) : Prop where
  ends    : ∃ n m, link.source.label ∈ g.labels n ∧
    g.Joins l link.relationship.label link.relationship.direction n m ∧
    link.relationship.target.label ∈ g.labels m
  markers : ∀ marker ∈ [scopeLabelKey, scopeIdKey],
    (g.prop (.link l) marker).same (cx.params.value marker) = some true

theorem Matchlink.mem_ageless {link : Matchlink} :
    e ∈ link.cleanup.ageless.targets cx g ↔ ∃ l, e = .link l ∧ link.InScope cx g l := by
  have hquery : link.cleanup.ageless = link.sweep.ageless.query := link.sweep.ageless_query
  have hreads : link.sweep.ageless.reads =
      [({ start := { labels := [link.source.label] }
          hops := [({ var := some "r", type := link.relationship.label,
                      arrow := arrow link.relationship.direction },
                    { labels := [link.relationship.target.label] })] },
        [.eq (.property "r" scopeLabelKey) (.param scopeLabelKey),
          .eq (.property "r" scopeIdKey) (.param scopeIdKey)])] := rfl
  rw [hquery, mem_targets_links hreads rfl (by simp)]
  constructor
  · rintro ⟨n, l, m, rfl, hn, hjoins, hm, hconditions⟩
    refine ⟨l, rfl, ⟨n, m, hn, hjoins, hm⟩, ?_⟩
    simp only [List.forall_mem_cons] at hconditions ⊢
    exact ⟨(marker_holds rfl).1 hconditions.1, (marker_holds rfl).1 hconditions.2.1, by simp⟩
  · rintro ⟨l, rfl, ⟨n, m, hn, hjoins, hm⟩, hmarkers⟩
    refine ⟨n, l, m, rfl, hn, hjoins, hm, ?_⟩
    simp only [List.forall_mem_cons] at hmarkers ⊢
    exact ⟨(marker_holds rfl).2 hmarkers.1, (marker_holds rfl).2 hmarkers.2.1, by simp⟩

/-! ## What one ingestion writes -/

/-- The number of cleanup statements before those of the other
    relationships. -/
def CleanupScope.leading : CleanupScope → Nat
  | .subResource _ => 2
  | .relationshipsOnly => 0
  | .unscoped => 1

namespace NodeSchema

/-- The rows of a batch write the link for a relationship: it has the ends of
    one of their strokes. -/
def WritesLink (s : NodeSchema) (cx : Context) (batch : List Json) (g : Graph)
    (rel : Relationship) (l : Nat) : Prop :=
  l ∈ g.links ∧ ∃ k ∈ s.strokes cx g batch, k.rel = rel ∧ k.ends = g.ends l

/-- The cleanup of a node schema, evaluated with `cx'`, reaches all that the
    ingestion of a batch, evaluated with `cx`, has written. -/
structure Reaches (s : NodeSchema) (cx cx' : Context) (batch : List Json) (st : Store) : Prop where
  /-- What is written is a node that a row reports, or a link for one of the
      relationships. -/
  written : ∀ e ∈ st.written, (∃ n, e = .node n ∧ s.Reported cx batch st.graph n) ∨
    ∃ l, e = .link l ∧ ∃ rel ∈ s.relationships, s.WritesLink cx batch st.graph rel l
  /-- Both select the same owners. -/
  owners  : ∀ sub, s.scope = .subResource sub → ∀ field m,
    sub.target.Selects cx field st.graph m ↔
      sub.target.Selects cx' (fun _ => .null) st.graph m
  /-- The first statement reaches the nodes, -/
  nodes   : s.scope ≠ .relationshipsOnly → ∃ q, s.cleanup[0]? = some q ∧
    ∀ n, s.Reported cx batch st.graph n → .node n ∈ q.ageless.targets cx' st.graph
  /-- the second one the links to the owners, -/
  owned   : ∀ sub, s.scope = .subResource sub → ∃ q, s.cleanup[1]? = some q ∧
    ∀ l, s.WritesLink cx batch st.graph sub l → .link l ∈ q.ageless.targets cx' st.graph
  /-- and each of the others the links of its relationship. -/
  links   : ∀ i rel, s.others[i]? = some rel → ∃ q, s.cleanup[s.scope.leading + i]? = some q ∧
    ∀ l, s.WritesLink cx batch st.graph rel l → .link l ∈ q.ageless.targets cx' st.graph

variable {s : NodeSchema} {sub rel : Relationship} {n l : Nat}

/-- A link that is written for a relationship joins a node that a row reports
    to one that the relationship selects. -/
theorem WritesLink.joins (h : s.WritesLink cx batch g rel l) : ∃ n m row,
    s.Reported cx batch g n ∧ s.label ∈ g.labels n ∧ g.Joins l rel.label rel.direction n m ∧
      rel.target.Selects cx row g m := by
  obtain ⟨hl, k, hk, rfl, hends⟩ := h
  obtain ⟨hrow, hnode, -, -, hselects⟩ := mem_strokes.1 hk
  exact ⟨k.node, k.other, _, ⟨k.row, hrow, hnode⟩, hnode.2.label,
    Graph.joins_iff_ends.2 ⟨hl, hends.symm⟩, hselects⟩

/-- With an owner in the graph at the end, every node that a row reports
    belongs to one. -/
theorem owned_of_reported (hscope : s.scope = .subResource sub)
    (hselects : ∀ field m, sub.target.Selects cx field g m ↔
      sub.target.Selects cx' (fun _ => .null) g m)
    (hdrawn : ∀ k ∈ s.strokes cx g batch, ∃ l ∈ g.links, g.ends l = k.ends)
    (howner : ∃ m ∈ g.nodes, sub.target.Selects cx' (fun _ => .null) g m)
    (hn : s.Reported cx batch g n) : ∃ l owner, s.OwnedBy sub cx' g n l owner := by
  obtain ⟨row, hrow, hid⟩ := hn
  obtain ⟨m, hm, howner⟩ := howner
  have hsub : sub ∈ s.relationships := by
    simp [relationships, subResource?, hscope]
  have hstroke : { row, rel := sub, node := n, other := m } ∈ s.strokes cx g batch :=
    mem_strokes.2 ⟨hrow, hid, hsub, hm, (hselects _ _).2 howner⟩
  obtain ⟨l, hl, hends⟩ := hdrawn _ hstroke
  exact ⟨l, m, hid.2.label, Graph.joins_iff_ends.2 ⟨hl, hends⟩, howner⟩

/-- An ingestion writes the nodes that its rows report and the links of their
    strokes, and all strokes are drawn. -/
theorem ingestion_written (hs : s.Built) (hbatch : cx.params.value rowsParam = .array batch)
    {rows : List Binding} (hstart : st.written = []) (h : s.ingestion.Exec cx st st' rows) :
    (∀ e ∈ st'.written, (∃ n, e = .node n ∧ s.Reported cx batch st'.graph n) ∨
      ∃ l, e = .link l ∧ ∃ rel ∈ s.relationships, s.WritesLink cx batch st'.graph rel l) ∧
    ∀ k ∈ s.strokes cx st'.graph batch, ∃ l ∈ st'.graph.links, st'.graph.ends l = k.ends := by
  obtain ⟨st₁, hpopulates, hdraws⟩ := ingestion_outcome hs hbatch h
  rw [strokes_eq hdraws]
  refine ⟨?_, hdraws.drawn⟩
  intro e he
  rcases hdraws.written e he with he | ⟨l, hl, rfl, k, hk, hends⟩
  · rcases hpopulates.written e he with he | ⟨n, rfl, row, hrow, hn⟩
    · rw [hstart] at he
      cases he
    · exact .inl ⟨n, rfl, row, hrow, (Identifies.congr hdraws.sameNodes).2 hn⟩
  · refine .inr ⟨l, rfl, k.rel, (mem_strokes.1 hk).2.2.1, hl, k, ?_, rfl, hends⟩
    rw [strokes_eq hdraws]
    exact hk

/-- The first statement reaches the nodes that rows report, when each of them
    belongs to an owner. -/
theorem reached_nodes (hnodes : s.scope ≠ .relationshipsOnly)
    (howned : ∀ sub, s.scope = .subResource sub → ∀ n, s.Reported cx batch g n →
      ∃ l owner, s.OwnedBy sub cx' g n l owner) :
    ∃ q, s.cleanup[0]? = some q ∧
      ∀ n, s.Reported cx batch g n → .node n ∈ q.ageless.targets cx' g := by
  unfold cleanup
  cases hscope : s.scope with
  | subResource sub =>
    refine ⟨_, rfl, ?_⟩
    intro n hn
    obtain ⟨l, owner, ho⟩ := howned sub hscope n hn
    exact mem_ageless_ownedNodes.2 ⟨n, l, owner, rfl, ho⟩
  | relationshipsOnly => exact absurd hscope hnodes
  | unscoped =>
    refine ⟨_, rfl, ?_⟩
    rintro n ⟨row, -, hid⟩
    exact mem_ageless_allNodes.2 ⟨n, hid.1, rfl, hid.2.label⟩

/-- The statement for another relationship reaches the links that are written
    for it, when each node that rows report belongs to an owner. -/
theorem reached_links {i : Nat} (hrel : s.others[i]? = some rel)
    (howned : ∀ sub, s.scope = .subResource sub → ∀ n, s.Reported cx batch g n →
      ∃ l owner, s.OwnedBy sub cx' g n l owner) :
    ∃ q, s.cleanup[s.scope.leading + i]? = some q ∧
      ∀ l, s.WritesLink cx batch g rel l → .link l ∈ q.ageless.targets cx' g := by
  have hall (l : Nat) (hl : s.WritesLink cx batch g rel l) :
      .link l ∈ (s.cleanupAllLinks rel).ageless.targets cx' g := by
    obtain ⟨n, m, row, -, hlabel, hjoins, hm⟩ := hl.joins
    exact mem_ageless_allLinks.2 ⟨n, l, m, rfl, hlabel, hjoins, hm.label⟩
  unfold cleanup
  cases hscope : s.scope with
  | subResource sub =>
    refine ⟨s.cleanupOwnedLinks sub rel, ?_, ?_⟩
    · simp [CleanupScope.leading, Nat.add_comm 2 i, hrel]
    · intro l hl
      obtain ⟨n, m, row, hn, -, hjoins, hm⟩ := hl.joins
      obtain ⟨k, owner, ho⟩ := howned sub hscope n hn
      exact mem_ageless_ownedLinks.2 ⟨n, k, owner, l, m, rfl, ho, hjoins, hm.label⟩
  | relationshipsOnly =>
    refine ⟨s.cleanupAllLinks rel, ?_, hall⟩
    simp [CleanupScope.leading, hrel]
  | unscoped =>
    refine ⟨s.cleanupAllLinks rel, ?_, hall⟩
    simp [CleanupScope.leading, Nat.add_comm 1 i, hrel]

/-- After an ingestion that leaves an owner for its nodes, the cleanup reaches
    all that it has written. -/
theorem ingestion_reached (hs : s.Built) (hbatch : cx.params.value rowsParam = .array batch)
    (hlower : cx'.lower = cx.lower)
    (hvalue : ∀ name ∈ parameterNames s.ownerReferences,
      cx'.params.value name = cx.params.value name)
    {rows : List Binding} (hstart : st.written = []) (h : s.ingestion.Exec cx st st' rows)
    (howner : ∀ sub, s.scope = .subResource sub →
      ∃ m ∈ st'.graph.nodes, sub.target.Selects cx' (fun _ => .null) st'.graph m) :
    s.Reaches cx cx' batch st' := by
  obtain ⟨hwritten, hdrawn⟩ := ingestion_written hs hbatch hstart h
  have hselects : ∀ sub, s.scope = .subResource sub → ∀ field m,
      sub.target.Selects cx field st'.graph m ↔
        sub.target.Selects cx' (fun _ => .null) st'.graph m := by
    intro sub hscope field m
    refine (Endpoint.selects_of_parameters (hs.owner_isParameter hscope) hlower ?_ _ _).symm
    intro entry hentry
    exact hvalue _ (hs.mem_owner_names hscope hentry)
  have howned (sub : Relationship) (hscope : s.scope = .subResource sub) (n : Nat)
      (hn : s.Reported cx batch st'.graph n) :
      ∃ l owner, s.OwnedBy sub cx' st'.graph n l owner :=
    owned_of_reported hscope (hselects sub hscope) hdrawn (howner sub hscope) hn
  refine ⟨hwritten, hselects, fun hnodes => reached_nodes hnodes howned, ?_,
    fun i rel hrel => reached_links hrel howned⟩
  intro sub hscope
  unfold cleanup
  rw [hscope]
  refine ⟨_, rfl, ?_⟩
  intro l hl
  obtain ⟨n, m, row, -, hlabel, hjoins, hm⟩ := hl.joins
  exact mem_ageless_ownerLinks.2 ⟨n, l, m, rfl, hlabel, hjoins, (hselects sub hscope row m).1 hm⟩

end NodeSchema

/-! ## What the batches of a matchlink write -/

namespace Matchlink

variable {link : Matchlink}

/-- A link between nodes with the labels of a matchlink that has the scope
    markers of the parameters, as they are. -/
structure Bears (link : Matchlink) (p : Parameters) (g : Graph) (l : Nat) : Prop where
  ends    : ∃ n m, link.source.label ∈ g.labels n ∧
    g.Joins l link.relationship.label link.relationship.direction n m ∧
    link.relationship.target.label ∈ g.labels m
  markers : ∀ marker ∈ [scopeLabelKey, scopeIdKey], g.prop (.link l) marker = p.value marker

/-- All that is written are links with the scope markers of the parameters. -/
def WritesOwn (link : Matchlink) (p : Parameters) (st : Store) : Prop :=
  ∀ e ∈ st.written, ∃ l ∈ st.graph.links, e = .link l ∧ link.Bears p st.graph l

/-- A stroke of a matchlink leaves the scope markers on its links. -/
theorem marker_of_stroke (hlink : link.Built)
    (hdraws : Draws cx (link.strokes cx st.graph batch) st st') {k : Stroke}
    (hk : k ∈ link.strokes cx st.graph batch) {l : Nat} (hl : l ∈ st'.graph.links)
    (hends : k.ends = st'.graph.ends l) {marker : String}
    (hmarker : marker ∈ [scopeLabelKey, scopeIdKey]) :
    st'.graph.prop (.link l) marker = cx.params.value marker := by
  obtain ⟨k', hk', -, hfed⟩ := hdraws.exists_drawn hl hk hends
  rw [(mem_strokes.1 hk').1] at hfed
  exact hfed _ _ (hlink.gives_marker hmarker _)

/-- Every batch keeps the scope markers of what has been written with the same
    ones. -/
theorem WritesOwn.draws (hlink : link.Built) {p : Parameters}
    (hmarkers : ∀ marker ∈ [scopeLabelKey, scopeIdKey], cx.params.value marker = p.value marker)
    (hdraws : Draws cx (link.strokes cx st.graph batch) st st') (h : link.WritesOwn p st) :
    link.WritesOwn p st' := by
  have hmarked {l : Nat} (hl : l ∈ st'.graph.links)
      (hstroke : ∃ k ∈ link.strokes cx st.graph batch, k.ends = st'.graph.ends l) :
      ∀ marker ∈ [scopeLabelKey, scopeIdKey],
        st'.graph.prop (.link l) marker = p.value marker := by
    intro marker hmarker
    obtain ⟨k, hk, hends⟩ := hstroke
    exact (marker_of_stroke hlink hdraws hk hl hends hmarker).trans (hmarkers marker hmarker)
  intro e he
  rcases hdraws.written e he with he | ⟨l, hl, rfl, k, hk, hends⟩
  · -- the link was written before
    obtain ⟨l, hl, rfl, ⟨n, m, hn, hjoins, hm⟩, hold⟩ := h e he
    have hl' := hdraws.mem_links hl
    refine ⟨l, hl', rfl, ⟨n, m, ?_, hdraws.extends_graph.joins_of hjoins, ?_⟩, ?_⟩
    · rw [hdraws.labels]
      exact hn
    · rw [hdraws.labels]
      exact hm
    · by_cases hstroke : ∃ k ∈ link.strokes cx st.graph batch, k.ends = st'.graph.ends l
      · exact hmarked hl' hstroke
      · rw [hdraws.link_prop_eq fun _ => hstroke]
        exact hold
  · -- it is written now, between the nodes of a stroke
    obtain ⟨hrel, -, hfinds⟩ := mem_strokes.1 hk
    refine ⟨l, hl, rfl, ⟨k.node, k.other, ?_, ?_, ?_⟩, hmarked hl ⟨k, hk, hends⟩⟩
    · rw [hdraws.labels]
      exact hfinds.source.label
    · rw [Graph.joins_iff_ends, ← hrel]
      exact ⟨hl, hends.symm⟩
    · rw [hdraws.labels]
      exact hfinds.target.label

/-- At every point of a load, what it has written has its scope markers. -/
theorem load_writesOwn {ε : Type} (hlink : link.Built) {p : Parameters} {load : Load}
    {tasks : List Task} (htasks : (Schema.matchlink link).Carries p load tasks)
    {lower : String → String} {replies : List (Reply ε)}
    (hs : Session lower tasks st replies st') (hstart : st.written = []) :
    link.WritesOwn p st' := by
  refine htasks.invariant hs ?_ ?_
  · intro batch now s₁ rows s₂ hexec hs₁
    have hdraws := ingestion_strokes hlink.relationship.recorded.nodup
      (Parameters.value_insert_self _ _ _) hexec
    refine hs₁.draws hlink ?_ hdraws
    -- a batch is sent under a name that is none of the markers
    intro marker hmarker
    have hne : marker ≠ rowsParam := by
      rcases List.mem_pair.1 hmarker with rfl | rfl
      · decide
      · decide
    exact Parameters.value_insert_of_ne p hne (.array batch)
  · intro e he
    rw [hstart] at he
    cases he

/-- A cleanup with the same scope markers reaches what has them, if they can be
    compared. -/
theorem Bears.inScope {p : Parameters} {l : Nat} (h : link.Bears p g l)
    (hmarkers : ∀ marker ∈ [scopeLabelKey, scopeIdKey],
      cx.params.value marker = p.value marker ∧ (p.value marker).isScalar = true) :
    link.InScope cx g l := by
  refine ⟨h.ends, fun marker hmarker => ?_⟩
  obtain ⟨hvalue, hscalar⟩ := hmarkers marker hmarker
  rw [h.markers marker hmarker, hvalue]
  exact Json.same_self_of_isScalar hscalar

end Matchlink

/-! ## The two compilers agree -/

/-- The cleanup of a schema, without its comparison of the run, reaches what
    the schema writes: all that one ingestion of a node schema writes, if a
    node meets the pattern of the owner afterwards, each part by the statement
    that is for it; and all that a load of a matchlink writes, at any point of
    it, by the cleanup with the same scope markers. -/
theorem cleanup_reaches_what_is_written :
    (∀ s : NodeSchema, s.Built → ∀ (cx cx' : Context) (batch : List Json),
        cx.params.value rowsParam = .array batch → cx'.lower = cx.lower →
        (∀ name ∈ parameterNames s.ownerReferences,
          cx'.params.value name = cx.params.value name) →
        ∀ g st' rows, s.ingestion.Exec cx { graph := g, written := [] } st' rows →
          (∀ sub, s.scope = .subResource sub →
            ∃ m ∈ st'.graph.nodes, sub.target.Selects cx' (fun _ => .null) st'.graph m) →
          s.Reaches cx cx' batch st') ∧
      ∀ link : Matchlink, link.Built → ∀ (p : Parameters) (rows : List Row) (o : SyncOptions)
          (load : Load) (tasks : List Task), (Schema.matchlink link).load rows p o = .ok load →
        (Schema.matchlink link).Carries p load tasks →
        (∀ marker ∈ [scopeLabelKey, scopeIdKey], (p.value marker).isScalar = true) →
        ∀ (ε : Type) lower g s' (replies : List (Reply ε)),
          Session lower tasks { graph := g, written := [] } replies s' →
          ∀ cx' : Context, (∀ marker ∈ [scopeLabelKey, scopeIdKey],
              cx'.params.value marker = p.value marker) →
            ∀ e ∈ s'.written, e ∈ link.cleanup.ageless.targets cx' s'.graph := by
  constructor
  · intro s hs cx cx' batch hbatch hlower hvalue g st' rows h howner
    exact NodeSchema.ingestion_reached hs hbatch hlower hvalue rfl h howner
  · intro link hlink p rows o load tasks _ htasks hscalar ε lower g s' replies hsession cx' hsame
      e he
    have hown : link.WritesOwn p s' := Matchlink.load_writesOwn hlink htasks hsession rfl
    obtain ⟨l, -, rfl, hl⟩ := hown e he
    exact Matchlink.mem_ageless.2 ⟨l, rfl, hl.inScope fun marker hmarker =>
      ⟨hsame marker hmarker, hscalar marker hmarker⟩⟩

namespace Sample

/-- What the cleanup of the first account is evaluated with. -/
def accountContext : Context := accountJob.context {} id

/-- What a team with some id sends to load one row. -/
def accessTasks (scopeId : Json) : List Task :=
  [.index (.node "Person" idKey), .index (.node "Repo" idKey),
   .index (.relationship "CAN_ACCESS" [lastUpdatedKey, scopeLabelKey, scopeIdKey]),
   .batch access.ingestion (scopedParameters 1 scopeId) [accessRow]]

/-- A load of one row is accepted, and sends these tasks. -/
theorem access_load (scopeId : Json)
    (hscope : access.checkScope (scopedParameters 1 scopeId) = .ok ())
    (hreads : ∀ name ∈ clauseParams access.ingestion,
      name = rowsParam ∨ (scopedParameters 1 scopeId).contains name = true) : ∃ load,
    (Schema.matchlink access).load [.ok accessRow] (scopedParameters 1 scopeId) {} = .ok load ∧
      (Schema.matchlink access).Carries (scopedParameters 1 scopeId) load
        (accessTasks scopeId) := by
  have hload : (Schema.matchlink access).load [.ok accessRow] (scopedParameters 1 scopeId) {} =
      Load.prepare "CAN_ACCESS" access.ingestion access.indexes [.ok accessRow]
        (scopedParameters 1 scopeId) {} := by
    show (access.checkScope (scopedParameters 1 scopeId) >>= fun _ => _) = _
    rw [hscope]
    rfl
  have hchecked : checkRows [.ok accessRow] = .ok [accessRow] := rfl
  refine ⟨_, hload.trans (Load.prepare_eq_ok "CAN_ACCESS" access.indexes {} rfl hreads hchecked),
    ?_, ?_⟩
  · have hindexes : access.indexes = [.node "Person" idKey, .node "Repo" idKey,
        .relationship "CAN_ACCESS" [lastUpdatedKey, scopeLabelKey, scopeIdKey]] := by decide
    have hbatches : batches 10000 [accessRow] = [[accessRow]] := by simp [batches]
    show _ = indexStages access.indexes ++ (batches 10000 [accessRow]).map _
    rw [hindexes, hbatches]
    rfl
  · intro t ht
    simp only [accessTasks, List.mem_cons, List.not_mem_nil, or_false] at ht
    rcases ht with rfl | rfl | rfl | rfl
    · exact .inl ⟨_, rfl⟩
    · exact .inl ⟨_, rfl⟩
    · exact .inl ⟨_, rfl⟩
    · exact .inr ⟨_, rfl⟩

/-- The database carries out all of it, if it can carry out the batch. -/
theorem access_session {scopeId : Json} {out : List Binding}
    (hexec : access.ingestion.Exec (teams.sending (scopedParameters 1 scopeId) [accessRow])
      idle.store (grantedTo scopeId) out) :
    Session (ε := String) id (accessTasks scopeId) idle.store [.ok 0, .ok 0, .ok 0, .ok 0]
      (grantedTo scopeId) := by
  have hindex := Task.index_answers id
  have hbatch : (Task.batch access.ingestion (scopedParameters 1 scopeId) [accessRow]).Answers id
      idle.store 0 (grantedTo scopeId) := ⟨0, out, hexec, trivial⟩
  exact .answered (hindex _ _) (.answered (hindex _ _) (.answered (hindex _ _)
    (.answered hbatch (.pause [] _))))

end Sample

/-- The cleanup of an account reaches the host that its load has made, and that
    of a team the link that its load has drawn. -/
theorem samples_are_reached :
    Sample.ownedHosts.Reaches (Sample.reporting false) Sample.accountContext [Sample.hostRow]
        Sample.ownedHost ∧
      .link 0 ∈ Sample.access.cleanup.ageless.targets
        { params := Sample.teamParameters false, now := 0, lower := id } Sample.granted.graph := by
  constructor
  · obtain ⟨out, hexec⟩ := Sample.ownedHost_exec
    refine cleanup_reaches_what_is_written.1 Sample.ownedHosts Sample.ownedHosts_built
      (Sample.reporting false) Sample.accountContext [Sample.hostRow] rfl rfl ?_ _ _ out hexec ?_
    · intro name hname
      have hnames : parameterNames Sample.ownedHosts.ownerReferences = ["ACCOUNT"] := by decide
      rw [hnames, List.mem_singleton] at hname
      rw [hname]
      rfl
    · intro sub hscope
      obtain rfl : Sample.ownership = sub := CleanupScope.subResource.inj hscope
      refine ⟨0, by decide, by decide, ?_⟩
      intro entry hentry
      rw [List.mem_singleton.1 hentry]
      rfl
  · obtain ⟨load, hload, hcarries⟩ := Sample.access_load (.string "a") rfl (by decide)
    obtain ⟨out, hexec⟩ := Sample.granted_exec
    have hscalar : ∀ marker ∈ [scopeLabelKey, scopeIdKey],
        ((Sample.teamParameters false).value marker).isScalar = true := by decide
    exact cleanup_reaches_what_is_written.2 Sample.access Sample.access_built _ _ {} load _ hload
      hcarries hscalar String id Sample.people Sample.granted _ (Sample.access_session hexec) _
      (fun _ _ => rfl) _ List.mem_cons_self

/-! ## An owner that an ingestion renames -/

namespace Sample

/-- The relationship to the host by whose name the others are found. -/
def nesting : Relationship where
  label := "RESOURCE"
  direction := .inward
  target := { label := "Host", matcher := [("name", .param "OWNER")] }
  properties := [(lastUpdatedKey, .param lastUpdatedKey)]
  source := none

/-- Hosts that belong to a host. -/
def nested : NodeSchema where
  label := "Host"
  properties := [(idKey, .row "id"), (lastUpdatedKey, .param lastUpdatedKey), ("name", .row "name")]
  extraLabels := []
  scope := .subResource nesting
  others := []

theorem nested_built : nested.Built := by
  refine ⟨⟨{ label := "Host", properties := nested.properties, subResource := some nesting }, rfl⟩,
    ?_⟩
  intro rel hrel
  obtain rfl : rel = nesting := List.mem_singleton.1 hrel
  exact ⟨{ label := "RESOURCE", direction := .inward, target := some nesting.target
           properties := nesting.properties }, rfl⟩

/-- The host `a`, by the name of `main`. -/
def mainHost : Graph where
  nodes := [0]
  links := []
  labels _ := {"Host"}
  type _ := ""
  source _ := 0
  target _ := 0
  prop e key :=
    match e, key with
    | .node 0, "id" => .string "a"
    | .node 0, "name" => .string "main"
    | _, _ => .null
  nodes_nodup := List.nodup_singleton 0
  links_nodup := List.nodup_nil
  ends_mem := fun _ hl => absurd hl List.not_mem_nil

/-- The host `a` has got another name. -/
def renamedRow : Json := .object [("id", .string "a"), ("name", .string "spare")]

/-- The statement that reports it, for the owner `main`. -/
def renamedContext : Context where
  params := (Parameters.ofRun 1 [("OWNER", .string "main")]).insert rowsParam (.array [renamedRow])
  now := 0
  lower := id

/-- The host after its run and its name have been assigned. -/
def sparedHost : Store where
  graph := (mainHost.setProp (.node 0) lastUpdatedKey (.ofInt64 1)).setProp (.node 0) "name"
    (.string "spare")
  written := [.node 0, .node 0]

/-- The ingestion finds the host and renames it, and then there is no owner to
    join it to. -/
theorem renamed_exec : ∃ rows,
    nested.ingestion.Exec renamedContext { graph := mainHost, written := [] } sparedHost rows := by
  have hfound : Path.matches renamedContext mainHost (NodeSchema.unbound renamedRow)
      { start := nested.pattern } = [NodeSchema.bound renamedRow 0] := rfl
  have hmerge : (Clause.merge { start := nested.pattern } [setFirstSeen "i"]).Exec renamedContext
      { store := { graph := mainHost, written := [] }, rows := [NodeSchema.unbound renamedRow] }
      { store := { graph := mainHost, written := [] }
        rows := [NodeSchema.bound renamedRow 0] } := by
    refine ⟨[NodeSchema.bound renamedRow 0], _, [], .inl ⟨?_, hfound.symm, rfl⟩, ⟨rfl, rfl⟩, rfl⟩
    rw [hfound]
    exact List.cons_ne_nil _ _
  have hset : (Clause.set (setFields "i" nested.assigned)).Exec renamedContext
      { store := { graph := mainHost, written := [] }, rows := [NodeSchema.bound renamedRow 0] }
      { store := sparedHost, rows := [NodeSchema.bound renamedRow 0] } :=
    ⟨[NodeSchema.bound renamedRow 0], _, [], ⟨rfl, rfl⟩, ⟨rfl, rfl⟩, rfl⟩
  have hwith : (Clause.withVars ["i", rowAlias] [] none).Exec renamedContext
      { store := sparedHost, rows := [NodeSchema.bound renamedRow 0] }
      { store := sparedHost, rows := [NodeSchema.bound renamedRow 0] } := by
    refine ⟨rfl, ?_⟩
    show _ = [(NodeSchema.bound renamedRow 0).only ["i", rowAlias]]
    rw [NodeSchema.only_bound]
  have hbranch : clausesExec renamedContext (NodeSchema.attach nesting)
      { store := sparedHost, rows := [NodeSchema.bound renamedRow 0] }
      { store := sparedHost, rows := [] } :=
    ⟨_, hwith, _, rfl, ⟨_, []⟩, ⟨rfl, rfl⟩, _, ⟨rfl, rfl⟩, _, ⟨rfl, rfl⟩, rfl⟩
  have hcall : (Clause.call [NodeSchema.attach nesting]).Exec renamedContext
      { store := sparedHost, rows := [NodeSchema.bound renamedRow 0] }
      { store := sparedHost, rows := [NodeSchema.bound renamedRow 0] } :=
    ⟨[NodeSchema.bound renamedRow 0], _, [], ⟨⟨_, hbranch, rfl⟩, rfl⟩, ⟨rfl, rfl⟩, rfl⟩
  exact ⟨_, _, rfl, _, hmerge, _, hset, _, hwith, _, hcall, rfl⟩

end Sample

/-- The owner has to be there after the ingestion.  A schema whose owners are
    nodes of its own label may be given a row that renames the owner: before,
    the host meets the pattern of the owner, and after it the host has been
    written and is not reached. -/
theorem renamed_owner_is_out_of_reach :
    Sample.nested.Built ∧
      (∃ m ∈ Sample.mainHost.nodes,
        Sample.nesting.target.Selects Sample.renamedContext (fun _ => .null) Sample.mainHost m) ∧
      ∃ st' rows, Sample.nested.ingestion.Exec Sample.renamedContext
          { graph := Sample.mainHost, written := [] } st' rows ∧
        ∃ n, .node n ∈ st'.written ∧ ∀ q, Sample.nested.cleanup[0]? = some q →
          .node n ∉ q.ageless.targets Sample.renamedContext st'.graph := by
  obtain ⟨rows, hexec⟩ := Sample.renamed_exec
  refine ⟨Sample.nested_built, ⟨0, by decide, by decide, ?_⟩, Sample.sparedHost, rows, hexec, 0,
    List.mem_cons_self, ?_⟩
  · intro entry hentry
    rw [List.mem_singleton.1 hentry]
    rfl
  · intro q hq
    obtain rfl : Sample.nested.cleanupOwnedNodes Sample.nesting = q := Option.some.inj hq
    decide

end GraphSync
