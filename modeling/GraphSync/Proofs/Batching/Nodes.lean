import GraphSync.Proofs.Batching.Agreement
import GraphSync.Proofs.Ingestion.Outcome
import GraphSync.Proofs.Run.References

/-! # Nodes of several batches

    What rows make of the nodes of a graph does not depend on how they are cut
    into batches, or on when these are sent.

    * `NodeSchema.Loaded` says what that is, in terms of the rows and the two
      graphs only.
    * `NodeSchema.ingestion_loaded`: one ingestion leaves it, and several leave
      it one after another (`Loaded.trans`).
    * `Renames.nodesAgree`: there is no more to say.  Graphs that the same rows
      have made of one graph have the same nodes. -/

namespace GraphSync

open Cypher Plan

/-! ## Statements of a load -/

/-- What the statement for a batch is evaluated with. -/
def Context.sending (cx : Context) (batch : List Json) (now : Int64) : Context :=
  { cx with params := cx.params.insert rowsParam (.array batch), now }

theorem Context.value_sending_rows (cx : Context) (batch : List Json) (now : Int64) :
    (cx.sending batch now).params.value rowsParam = .array batch :=
  Parameters.value_insert_self _ _ _

/-- The rows stand among the parameters, where a reference may not look. -/
theorem Reference.value_sending {refs : List Reference} (hfree : rowsParam ∉ parameterNames refs)
    {r : Reference} (hr : r ∈ refs) (cx : Context) (batch : List Json) (now : Int64)
    (field : String → Json) :
    r.value (cx.sending batch now).params field = r.value cx.params field := by
  unfold Reference.value
  cases horigin : r.origin with
  | row => rfl
  | parameter =>
    apply Parameters.value_insert_of_ne
    intro hname
    have hparam : r.isParameter = true := by simp [Reference.isParameter, horigin]
    exact hfree (List.mem_map.2 ⟨r, List.mem_filter.2 ⟨hr, hparam⟩, hname⟩)

/-- So an endpoint selects the same nodes. -/
theorem Endpoint.selected_sending {e : Endpoint}
    (hfree : rowsParam ∉ parameterNames e.matcher.references) (cx : Context) (batch : List Json)
    (now : Int64) (field : String → Json) (g : Graph) :
    e.selected (cx.sending batch now) field g = e.selected cx field g := by
  apply selected_agree
  · rfl
  · intro entry hentry
    exact Reference.value_sending hfree (List.mem_map_of_mem hentry) cx batch now field

namespace NodeSchema

variable {s : NodeSchema} {cx : Context} {r : Reference} {row : Json}
  {batch rows rows' : List Json} {g g' g₁ g₂ g₃ : Graph} {st st' : Store} {v : Json} {n m : Nat}

/-! ## What rows make of the nodes -/

/-- What rows have made of the nodes of a graph, whatever the batches in which
    they were sent and the times of these. -/
structure Loaded (s : NodeSchema) (cx : Context) (rows : List Json) (g g' : Graph) : Prop where
  nodes  : g.nodes <+: g'.nodes
  found  : ∀ row ∈ rows, ∃ n, s.Identifies g' (s.idOf cx.params row) n
  /-- Nodes keep their ids. -/
  old    : ∀ n ∈ g.nodes, g'.prop (.node n) idKey = g.prop (.node n) idKey ∧
    ∀ v, s.Identifies g' v n ↔ s.Identifies g v n
  /-- A new node is the only one with its id, and has it from the first row that
      reports the node. -/
  new    : ∀ n ∈ g'.nodes, n ∉ g.nodes → ∃ row,
    IsFirst (fun row => s.Identifies g' (s.idOf cx.params row) n) rows row ∧
      g'.prop (.node n) idKey = s.idOf cx.params row ∧
        ∀ m, s.Identifies g' (s.idOf cx.params row) m ↔ m = n
  labels : ∀ n, s.Reported cx rows g' n → g'.labels n =
    (if n ∈ g.nodes then g.labels n else {s.label}) ∪ s.extraLabels.toFinset
  last   : ∀ {n row key r},
    IsLast (fun row => s.Identifies g' (s.idOf cx.params row) n) rows row →
      (key, r) ∈ s.assigned → g'.prop (.node n) key = r.value cx.params row.member
  rest   : ∀ {n key}, s.Reported cx rows g' n → key ≠ idKey → key ∉ s.assigned.keys →
    ∃ now, g'.prop (.node n) key = g.merged now (.node n) key
  others : ∀ n, ¬ s.Reported cx rows g' n → g'.node n = g.node n

namespace Loaded

theorem refl (s : NodeSchema) (cx : Context) (g : Graph) : s.Loaded cx [] g g where
  nodes := List.prefix_refl _
  found := by simp
  old := fun _ _ => ⟨rfl, fun _ => Iff.rfl⟩
  new := fun _ hn hnew => absurd hn hnew
  labels := fun _ ⟨_, hrow, _⟩ => absurd hrow List.not_mem_nil
  last := fun h => absurd h.mem List.not_mem_nil
  rest := fun ⟨_, hrow, _⟩ => absurd hrow List.not_mem_nil
  others := fun _ _ => rfl

theorem mem_nodes (h : s.Loaded cx rows g g') (hn : n ∈ g.nodes) : n ∈ g'.nodes :=
  h.nodes.subset hn

theorem gains (h : s.Loaded cx rows g g') : s.Gains g g' where
  nodes := h.nodes
  old := fun n hn => (h.old n hn).2
  new := by
    intro n hn hnew
    obtain ⟨row, -, -, hall⟩ := h.new n hn hnew
    exact ⟨_, hall⟩

/-- A node that no row reports was there. -/
theorem mem_of_unreported (h : s.Loaded cx rows g g') (hn : n ∈ g'.nodes)
    (hnone : ¬ s.Reported cx rows g' n) : n ∈ g.nodes := by
  by_contra hnew
  obtain ⟨row, hfirst, -, -⟩ := h.new n hn hnew
  exact hnone ⟨row, hfirst.mem, hfirst.holds⟩

/-- It is about the nodes only. -/
theorem congr (h : s.Loaded cx rows g g₁) (hnodes : g₂.nodes = g₁.nodes)
    (hnode : ∀ n, g₂.node n = g₁.node n) : s.Loaded cx rows g g₂ := by
  have hids : s.Identifies g₂ = s.Identifies g₁ := by
    funext v n
    unfold Identifies
    rw [hnodes, hnode]
  have hreported : s.Reported cx rows g₂ = s.Reported cx rows g₁ := by
    funext n
    unfold Reported
    rw [hids]
  have hlabels (n : Nat) : g₂.labels n = g₁.labels n := Graph.labels_of_node_eq (hnode n)
  have hprop (n : Nat) (key : String) : g₂.prop (.node n) key = g₁.prop (.node n) key := by
    rw [Graph.prop_of_node_eq (hnode n)]
  constructor
  · rw [hnodes]
    exact h.nodes
  · rw [hids]
    exact h.found
  · simp only [hids, hprop]
    exact h.old
  · simp only [hnodes, hids, hprop]
    exact h.new
  · simp only [hreported, hlabels]
    exact h.labels
  · simp only [hids, hprop]
    exact h.last
  · simp only [hreported, hprop]
    exact h.rest
  · simp only [hreported, hnode]
    exact h.others

theorem labels_eq (h : s.Loaded cx rows g g') (hn : ¬ s.Reported cx rows g' n) :
    g'.labels n = g.labels n :=
  Graph.labels_of_node_eq (h.others n hn)

theorem prop_eq (h : s.Loaded cx rows g g') (hn : ¬ s.Reported cx rows g' n) (key : String) :
    g'.prop (.node n) key = g.prop (.node n) key := by
  rw [Graph.prop_of_node_eq (h.others n hn)]

/-- What rows report of the nodes that there were is not changed by others. -/
theorem reported_iff (h : s.Loaded cx rows' g g') (hn : n ∈ g.nodes) :
    s.Reported cx rows g' n ↔ s.Reported cx rows g n := by
  unfold Reported
  simp only [(h.old n hn).2]

/-- Rows do not report a node that comes after theirs. -/
theorem mem_of_reported (h₁₂ : s.Loaded cx rows g₁ g₂) (h₂₃ : s.Loaded cx rows' g₂ g₃)
    (hn : s.Reported cx rows g₃ n) : n ∈ g₂.nodes := by
  obtain ⟨row, hrow, hid⟩ := hn
  obtain ⟨m, hm⟩ := h₁₂.found row hrow
  exact h₂₃.gains.mem_of_identifies hm hid

theorem reported_append : s.Reported cx (rows ++ rows') g n ↔
    s.Reported cx rows g n ∨ s.Reported cx rows' g n := by
  simp only [Reported, List.mem_append, or_and_right, exists_or]

/-- Rows and then others are all of them. -/
theorem trans (h₁₂ : s.Loaded cx rows g₁ g₂) (h₂₃ : s.Loaded cx rows' g₂ g₃) :
    s.Loaded cx (rows ++ rows') g₁ g₃ where
  nodes := h₁₂.nodes.trans h₂₃.nodes
  found := by
    intro row hrow
    rcases List.mem_append.1 hrow with hrow | hrow
    · obtain ⟨n, hn⟩ := h₁₂.found row hrow
      exact ⟨n, ((h₂₃.old n hn.1).2 _).2 hn⟩
    · exact h₂₃.found row hrow
  old := by
    intro n hn
    have hn₂ := h₁₂.mem_nodes hn
    exact ⟨(h₂₃.old n hn₂).1.trans (h₁₂.old n hn).1,
      fun v => ((h₂₃.old n hn₂).2 v).trans ((h₁₂.old n hn).2 v)⟩
  new := by
    intro n hn hnew
    by_cases hn₂ : n ∈ g₂.nodes
    · obtain ⟨row, hfirst, hid, hall⟩ := h₁₂.new n hn₂ hnew
      refine ⟨row, IsFirst.append_iff.2 (.inl ?_), (h₂₃.old n hn₂).1.trans hid, ?_⟩
      · exact (IsFirst.congr fun row _ => (h₂₃.old n hn₂).2 _).2 hfirst
      · intro m
        -- the id has a node, so later rows add none
        rw [h₂₃.gains.identifies_iff ((hall n).2 rfl)]
        exact hall m
    · obtain ⟨row, hfirst, hid, hall⟩ := h₂₃.new n hn hn₂
      refine ⟨row, IsFirst.append_iff.2 (.inr ⟨hfirst, ?_⟩), hid, hall⟩
      intro row' hrow' hid'
      exact hn₂ (h₁₂.mem_of_reported h₂₃ ⟨row', hrow', hid'⟩)
  labels := by
    intro n hn
    by_cases hlater : s.Reported cx rows' g₃ n
    · rw [h₂₃.labels n hlater]
      by_cases hn₂ : n ∈ g₂.nodes
      · -- both may report the node, and the labels that they add are the same
        rw [if_pos hn₂]
        by_cases hfirst : s.Reported cx rows g₂ n
        · rw [h₁₂.labels n hfirst, Finset.union_assoc, Finset.union_self]
        · rw [h₁₂.labels_eq hfirst, if_pos (h₁₂.mem_of_unreported hn₂ hfirst)]
      · have hn₁ : n ∉ g₁.nodes := fun h => hn₂ (h₁₂.mem_nodes h)
        rw [if_neg hn₂, if_neg hn₁]
    · have hfirst := (reported_append.1 hn).resolve_right hlater
      rw [h₂₃.labels_eq hlater]
      exact h₁₂.labels n ((h₂₃.reported_iff (h₁₂.mem_of_reported h₂₃ hfirst)).1 hfirst)
  last := by
    intro n row key r hlast hr
    rcases IsLast.append_iff.1 hlast with hlast | ⟨hlast, hnone⟩
    · exact h₂₃.last hlast hr
    · -- later rows do not report the node
      have hlater : ¬ s.Reported cx rows' g₃ n := by
        intro hn
        obtain ⟨row', hrow', hid⟩ := hn
        exact hnone row' hrow' hid
      have hn₂ := h₁₂.mem_of_reported h₂₃ ⟨row, hlast.mem, hlast.holds⟩
      rw [h₂₃.prop_eq hlater]
      exact h₁₂.last ((IsLast.congr fun row _ => (h₂₃.old n hn₂).2 _).1 hlast) hr
  rest := by
    intro n key hn hid hkey
    by_cases hlater : s.Reported cx rows' g₃ n
    · obtain ⟨now, hrest⟩ := h₂₃.rest hlater hid hkey
      rw [hrest]
      -- the time is that of the rows which made the node, if any did
      by_cases hn₂ : n ∈ g₂.nodes
      · rw [Graph.merged_old ((g₂.has_node n).2 hn₂)]
        by_cases hfirst : s.Reported cx rows g₂ n
        · exact h₁₂.rest hfirst hid hkey
        · have hn₁ := h₁₂.mem_of_unreported hn₂ hfirst
          exact ⟨now, by rw [h₁₂.prop_eq hfirst, Graph.merged_old ((g₁.has_node n).2 hn₁)]⟩
      · have hn₁ : n ∉ g₁.nodes := fun h => hn₂ (h₁₂.mem_nodes h)
        refine ⟨now, ?_⟩
        rw [Graph.merged_new (by simpa using hn₂), Graph.merged_new (by simpa using hn₁)]
    · have hfirst := (reported_append.1 hn).resolve_right hlater
      rw [h₂₃.prop_eq hlater]
      exact h₁₂.rest ((h₂₃.reported_iff (h₁₂.mem_of_reported h₂₃ hfirst)).1 hfirst) hid hkey
  others := by
    intro n hn
    obtain ⟨hfirst, hlater⟩ := not_or.1 (mt reported_append.2 hn)
    rw [h₂₃.others n hlater]
    apply h₁₂.others
    intro hn₂
    have hmem : n ∈ g₂.nodes := by
      obtain ⟨row, -, hid⟩ := hn₂
      exact hid.1
    exact hfirst ((h₂₃.reported_iff hmem).2 hn₂)

end Loaded

/-! ## One ingestion -/

/-- The references of the node do not see the rows. -/
theorem value_sending (hfree : rowsParam ∉ parameterNames (Schema.node s).references)
    {key : String} (hr : (key, r) ∈ s.properties) (cx : Context) (batch : List Json)
    (now : Int64) (field : String → Json) :
    r.value (cx.sending batch now).params field = r.value cx.params field := by
  have hown : rowsParam ∉ parameterNames s.properties.references :=
    fun hname => hfree (mem_parameterNames_append.2 (.inl hname))
  exact Reference.value_sending hown (List.mem_map_of_mem hr) cx batch now field

theorem idOf_sending (hs : s.Built)
    (hfree : rowsParam ∉ parameterNames (Schema.node s).references) (cx : Context)
    (batch : List Json) (now : Int64) :
    s.idOf (cx.sending batch now).params = s.idOf cx.params := by
  obtain ⟨r, hr⟩ := hs.exists_id
  have hmem := (Fields.get?_eq_some_iff hs.checked.nodup).1 hr
  funext row
  unfold idOf
  rw [hr, Option.map_some, Option.map_some, value_sending hfree hmem]

/-- One ingestion loads the nodes of its batch. -/
theorem ingestion_loaded (hs : s.Built)
    (hfree : rowsParam ∉ parameterNames (Schema.node s).references) {now : Int64}
    {out : List Binding} (h : s.ingestion.Exec (cx.sending batch now) st st' out) :
    s.Loaded cx batch st.graph st'.graph := by
  obtain ⟨st₁, hpop, hdraws⟩ := ingestion_outcome hs (cx.value_sending_rows batch now) h
  have hid := idOf_sending hs hfree cx batch now
  have hreported (n : Nat) : s.Reported (cx.sending batch now) batch st₁.graph n ↔
      s.Reported cx batch st₁.graph n := by
    unfold Reported
    rw [hid]
  have hloaded : s.Loaded cx batch st.graph st₁.graph := by
    constructor
    · exact hpop.nodes
    · rw [← hid]
      exact hpop.found
    · exact hpop.old
    · intro n hn hnew
      rw [← hid]
      exact hpop.new n hn hnew
    · intro n hn
      exact hpop.labels n ((hreported n).2 hn)
    · intro n row key r hlast hmem
      rw [← hid] at hlast
      rw [hpop.last hlast hmem]
      exact value_sending hfree (List.mem_of_mem_filter hmem) cx batch now _
    · intro n key hn hne hkey
      exact ⟨now, hpop.rest ((hreported n).2 hn) hne hkey⟩
    · intro n hn
      exact hpop.others n (mt (hreported n).1 hn)
  -- links come after the nodes
  apply hloaded.congr hdraws.nodes
  intro n
  exact hdraws.node_eq n

/-! ## Two graphs that the same rows have made -/

/-- Nodes of two graphs that are the only ones with the id of a row. -/
def Twins (s : NodeSchema) (cx : Context) (rows : List Json) (g g' : Graph) (n m : Nat) : Prop :=
  ∃ row ∈ rows, (∀ k, s.Identifies g (s.idOf cx.params row) k ↔ k = n) ∧
    ∀ k, s.Identifies g' (s.idOf cx.params row) k ↔ k = m

namespace Twins

theorem symm (h : s.Twins cx rows g g' n m) : s.Twins cx rows g' g m n := by
  obtain ⟨row, hrow, hn, hm⟩ := h
  exact ⟨row, hrow, hm, hn⟩

/-- Twins have the same ids. -/
theorem identifies (h : s.Twins cx rows g g' n m) (hn : s.Identifies g v n) :
    s.Identifies g' v m := by
  obtain ⟨row, -, hself, hother⟩ := h
  have hsame := ((hself n).2 rfl).same hn
  exact ((hother m).2 rfl).of_same hsame

theorem identifies_iff (h : s.Twins cx rows g g' n m) :
    s.Identifies g' v m ↔ s.Identifies g v n :=
  ⟨h.symm.identifies, h.identifies⟩

/-- A node has one twin. -/
theorem unique {m' : Nat} (h : s.Twins cx rows g g' n m) (h' : s.Twins cx rows g g' n m') :
    m' = m := by
  obtain ⟨row, -, hn, hm⟩ := h
  obtain ⟨row', -, hn', hm'⟩ := h'
  -- both rows have the id of the node
  have hsame := ((hn' n).2 rfl).same ((hn n).2 rfl)
  exact (hm m').1 (((hm' m').2 rfl).of_same hsame)

end Twins

namespace Loaded

/-- Where there is no node with an id yet, and rows have it, they make one. -/
theorem exists_twin (h₁ : s.Loaded cx rows g g₁) (h₂ : s.Loaded cx rows g g₂)
    (hn : n ∈ g₁.nodes) (hnew : n ∉ g.nodes) :
    ∃ m ∈ g₂.nodes, m ∉ g.nodes ∧ s.Twins cx rows g₁ g₂ n m := by
  obtain ⟨row, hfirst, -, hall⟩ := h₁.new n hn hnew
  obtain ⟨m, hm⟩ := h₂.found row hfirst.mem
  have hmnew : m ∉ g.nodes := by
    intro hold
    have hm₁ : s.Identifies g₁ (s.idOf cx.params row) m :=
      ((h₁.old m hold).2 _).2 (((h₂.old m hold).2 _).1 hm)
    exact hnew ((hall m).1 hm₁ ▸ hold)
  exact ⟨m, hm.1, hmnew, row, hfirst.mem, hall, fun k => h₂.gains.identifies_new hm hmnew⟩

end Loaded

/-- `s.Renames g h h' f`: two graphs that have come from `g` have the same ids,
    on nodes of which `f` gives the numbers. -/
structure Renames (s : NodeSchema) (g h h' : Graph) (f : Nat → Nat) : Prop where
  bij   : Set.BijOn f {n | n ∈ h.nodes} {n | n ∈ h'.nodes}
  fixed : ∀ n ∈ g.nodes, f n = n
  old   : ∀ n ∈ h.nodes, f n ∈ g.nodes ↔ n ∈ g.nodes
  ids   : ∀ n ∈ h.nodes, ∀ v, s.Identifies h' v (f n) ↔ s.Identifies h v n

/-- Rows make nodes with the same ids each time. -/
theorem Loaded.exists_renames (h₁ : s.Loaded cx rows g g₁) (h₂ : s.Loaded cx rows g g₂) :
    ∃ f, s.Renames g g₁ g₂ f := by
  obtain ⟨f, hbij, hfixed, hnew⟩ := exists_bijOn (K := s.Twins cx rows g₁ g₂)
    h₁.nodes.subset h₂.nodes.subset (fun n => h₁.exists_twin h₂)
    (fun m hm hmnew => by
      obtain ⟨n, hn, hnnew, htwins⟩ := h₂.exists_twin h₁ hm hmnew
      exact ⟨n, hn, hnnew, htwins.symm⟩)
    (fun n _ _ n' _ _ m htwins htwins' => htwins'.symm.unique htwins.symm)
    (fun m _ _ m' _ _ n htwins htwins' => htwins'.unique htwins)
  refine ⟨f, hbij, hfixed, ?_, ?_⟩
  · intro n hn
    by_cases hold : n ∈ g.nodes
    · rw [hfixed n hold]
    · exact iff_of_false (hnew n hn hold).1 hold
  · intro n hn v
    by_cases hold : n ∈ g.nodes
    · rw [hfixed n hold, (h₂.old n hold).2, (h₁.old n hold).2]
    · exact (hnew n hn hold).2.identifies_iff

namespace Renames

variable {f : Nat → Nat}

theorem reported_iff (hf : s.Renames g g₁ g₂ f) (hn : n ∈ g₁.nodes) :
    s.Reported cx rows g₂ (f n) ↔ s.Reported cx rows g₁ n := by
  unfold Reported
  simp only [hf.ids n hn]

/-- The nodes of an id of a row correspond, in their order. -/
theorem nodesOf_eq (hf : s.Renames g g₁ g₂ f) (h₁ : s.Loaded cx rows g g₁)
    (h₂ : s.Loaded cx rows g g₂) (hrow : row ∈ rows) :
    s.nodesOf g₂ (s.idOf cx.params row) = (s.nodesOf g₁ (s.idOf cx.params row)).map f := by
  obtain ⟨n, hn⟩ := h₁.found row hrow
  by_cases hold : n ∈ g.nodes
  · have hid := ((h₁.old n hold).2 _).1 hn
    rw [h₁.gains.nodesOf_eq hid, h₂.gains.nodesOf_eq hid, List.map_congr_left, List.map_id]
    intro m hm
    exact hf.fixed m (mem_nodesOf.1 hm).1
  · -- the id has one node on each side
    have hn₂ := (hf.ids n hn.1 _).2 hn
    rw [nodesOf_eq_singleton fun m => h₁.gains.identifies_new hn hold,
      nodesOf_eq_singleton fun m => h₂.gains.identifies_new hn₂ (mt (hf.old n hn.1).1 hold)]
    rfl

/-- What no row reports is what it was. -/
theorem node_eq (hf : s.Renames g g₁ g₂ f) (h₁ : s.Loaded cx rows g g₁)
    (h₂ : s.Loaded cx rows g g₂) (hn : n ∈ g₁.nodes) (hnone : ¬ s.Reported cx rows g₁ n) :
    g₂.node (f n) = g₁.node n := by
  rw [h₂.others (f n) (mt (hf.reported_iff hn).1 hnone), h₁.others n hnone,
    hf.fixed n (h₁.mem_of_unreported hn hnone)]

theorem labels_eq (hf : s.Renames g g₁ g₂ f) (h₁ : s.Loaded cx rows g g₁)
    (h₂ : s.Loaded cx rows g g₂) (hn : n ∈ g₁.nodes) : g₂.labels (f n) = g₁.labels n := by
  by_cases hrow : s.Reported cx rows g₁ n
  · rw [h₂.labels (f n) ((hf.reported_iff hn).2 hrow), h₁.labels n hrow]
    by_cases hold : n ∈ g.nodes
    · rw [hf.fixed n hold]
    · rw [if_neg hold, if_neg (mt (hf.old n hn).1 hold)]
  · exact Graph.labels_of_node_eq (hf.node_eq h₁ h₂ hn hrow)

/-- The first row that reports a new node gives it its id. -/
theorem id_eq (hf : s.Renames g g₁ g₂ f) (h₁ : s.Loaded cx rows g g₁)
    (h₂ : s.Loaded cx rows g g₂) (hn : n ∈ g₁.nodes) :
    g₂.prop (.node (f n)) idKey = g₁.prop (.node n) idKey := by
  by_cases hold : n ∈ g.nodes
  · rw [hf.fixed n hold, (h₂.old n hold).1, (h₁.old n hold).1]
  · obtain ⟨row₁, hfirst₁, hprop₁, -⟩ := h₁.new n hn hold
    obtain ⟨row₂, hfirst₂, hprop₂, -⟩ := h₂.new (f n) (hf.bij.mapsTo hn)
      (mt (hf.old n hn).1 hold)
    rw [IsFirst.congr fun row _ => hf.ids n hn _] at hfirst₂
    rw [hprop₁, hprop₂, hfirst₁.unique hfirst₂]

/-- And the last row that reports a node gives it all that is assigned. -/
theorem assigned_eq (hf : s.Renames g g₁ g₂ f) (h₁ : s.Loaded cx rows g g₁)
    (h₂ : s.Loaded cx rows g g₂) (hn : n ∈ g₁.nodes) (hrow : s.Reported cx rows g₁ n)
    {key : String} (hkey : key ∈ s.assigned.keys) :
    g₂.prop (.node (f n)) key = g₁.prop (.node n) key := by
  obtain ⟨⟨_, r⟩, hr, rfl⟩ := List.mem_map.1 hkey
  obtain ⟨row, hmem, hid⟩ := hrow
  obtain ⟨last, hlast⟩ := IsLast.exists_of_mem
    (P := fun row => s.Identifies g₁ (s.idOf cx.params row) n) hmem hid
  have hlast₂ := (IsLast.congr fun row _ => hf.ids n hn (s.idOf cx.params row)).2 hlast
  rw [h₁.last hlast hr, h₂.last hlast₂ hr]

/-- What is not assigned is what it was, or the time. -/
theorem rest_eq (hf : s.Renames g g₁ g₂ f) (h₁ : s.Loaded cx rows g g₁)
    (h₂ : s.Loaded cx rows g g₂) (hn : n ∈ g₁.nodes) (hrow : s.Reported cx rows g₁ n)
    {key : String} (hid : key ≠ idKey) (hkey : key ∉ s.assigned.keys)
    (htime : key = firstSeenKey → n ∈ g.nodes) :
    g₂.prop (.node (f n)) key = g₁.prop (.node n) key := by
  obtain ⟨now₁, hrest₁⟩ := h₁.rest hrow hid hkey
  obtain ⟨now₂, hrest₂⟩ := h₂.rest ((hf.reported_iff hn).2 hrow) hid hkey
  rw [hrest₁, hrest₂]
  -- a new node has nothing there but the time
  by_cases hold : n ∈ g.nodes
  · rw [hf.fixed n hold, Graph.merged_old (by simpa using hold),
      Graph.merged_old (by simpa using hold)]
  · rw [Graph.merged_new (by simpa using mt (hf.old n hn).1 hold),
      Graph.merged_new (by simpa using hold), if_neg (mt htime hold), if_neg (mt htime hold)]

/-- Graphs that the same rows have made of one graph have the same nodes. -/
theorem nodesAgree (hf : s.Renames g g₁ g₂ f) (h₁ : s.Loaded cx rows g g₁)
    (h₂ : s.Loaded cx rows g g₂) : g.NodesAgree g₁ g₂ f where
  bij := hf.bij
  fixed := hf.fixed
  labels := fun n hn => hf.labels_eq h₁ h₂ hn
  props := by
    intro n hn key htime
    by_cases hrow : s.Reported cx rows g₁ n
    · by_cases hid : key = idKey
      · rw [hid]
        exact hf.id_eq h₁ h₂ hn
      · by_cases hkey : key ∈ s.assigned.keys
        · exact hf.assigned_eq h₁ h₂ hn hrow hkey
        · exact hf.rest_eq h₁ h₂ hn hrow hid hkey htime
    · rw [Graph.prop_of_node_eq (hf.node_eq h₁ h₂ hn hrow)]

end Renames

end NodeSchema

end GraphSync
