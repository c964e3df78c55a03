import GraphSync.Proofs.Indexes.Lookups
import GraphSync.Proofs.Ingestion.Load
import GraphSync.Proofs.Ingestion.Outcome

/-! # What one pass assigns

    A row goes through the clauses of an ingestion, and at a call through each
    of its branches.  `clausesPasses` lists the assignments to properties on
    every such way: by the map of a merged pattern, on creation, or set.

    * `NodeSchema.passes_ingestion`, `Matchlink.passes_ingestion`: what the
      compiled ingestions assign.
    * `Schema.assignsOnce_iff`: no property is assigned twice in one pass
      just when the time of creation is not declared as a property.
    * `Schema.Reloads.keeps_firstSeen`: then every element keeps it. -/

namespace GraphSync

open Cypher Plan

namespace Cypher

/-! ## Assignments of a query -/

/-- The part of a clause that assigns to a property. -/
inductive Part where
  /-- The map of a merged pattern. -/
  | merged
  /-- The items for what a merge has made. -/
  | created
  | set
  deriving DecidableEq

/-- An assignment to a property of what a variable is bound to. -/
structure PropertyWrite where
  var   : String
  key   : String
  value : Expr
  part  : Part
  deriving DecidableEq

namespace PropertyWrite

/-- The property that is assigned to. -/
def slot (w : PropertyWrite) : String × String := (w.var, w.key)

end PropertyWrite

def NodePattern.writes (n : NodePattern) : List PropertyWrite :=
  n.var.toList.flatMap fun var =>
    n.props.map fun (key, value) => { var, key, value, part := .merged }

def SetItem.write? (part : Part) : SetItem → Option PropertyWrite
  | .property var key value => some { var, key, value, part }
  | .labels _ _ => none

mutual

/-- What a row may assign in a clause: one list for each way through it. -/
def Clause.passes : Clause → List (List PropertyWrite)
  | .merge path onCreate =>
    [path.nodes.flatMap NodePattern.writes ++ onCreate.filterMap (SetItem.write? .created)]
  | .set items => [items.filterMap (SetItem.write? .set)]
  | .call branches => branchesPasses branches
  | _ => [[]]

/-- What a row may assign in clauses one after another. -/
def clausesPasses : List Clause → List (List PropertyWrite)
  | [] => [[]]
  | c :: rest => c.passes.flatMap fun ws => (clausesPasses rest).map (ws ++ ·)

/-- What a row may assign in one of some branches. -/
def branchesPasses : List (List Clause) → List (List PropertyWrite)
  | [] => []
  | branch :: rest => clausesPasses branch ++ branchesPasses rest

end

theorem clausesPasses_append (q q' : List Clause) : clausesPasses (q ++ q') =
    (clausesPasses q).flatMap fun ws => (clausesPasses q').map (ws ++ ·) := by
  induction q with
  | nil => simp [clausesPasses]
  | cons c rest ih =>
    -- both sides pair each way through `c` with one through what follows
    rw [List.cons_append, clausesPasses, clausesPasses, ih]
    simp only [List.flatMap_assoc, List.map_flatMap, List.flatMap_map, List.map_map,
      Function.comp_def, List.append_assoc]

/-- Branches with one way through each. -/
theorem branchesPasses_map {α : Type} {branch : α → List Clause} {writes : α → List PropertyWrite}
    (h : ∀ a, clausesPasses (branch a) = [writes a]) (l : List α) :
    branchesPasses (l.map branch) = l.map writes := by
  induction l with
  | nil => rfl
  | cons a rest ih => rw [List.map_cons, branchesPasses, ih, h]; rfl

end Cypher

/-! ## Assignments of compiled ingestions -/

/-- The assignments of fields to what a variable is bound to. -/
def Fields.writes (fields : Fields) (var : String) : List PropertyWrite :=
  fields.map fun (key, r) => { var, key, value := r.expr, part := .set }

/-- The assignment of the time of creation. -/
def firstSeenWrite (var : String) : PropertyWrite :=
  { var, key := firstSeenKey, value := .timestamp, part := .created }

theorem filterMap_setFields (var : String) (fields : Fields) :
    (setFields var fields).filterMap (SetItem.write? .set) = fields.writes var := by
  induction fields with
  | nil => rfl
  | cons entry rest ih =>
    obtain ⟨key, r⟩ := entry
    unfold setFields Fields.writes at ih ⊢
    rw [List.map_cons, List.filterMap_cons]
    simp only [SetItem.write?, ih, List.map_cons]

/-- What a row assigns to a link of a relationship. -/
def Relationship.writes (rel : Relationship) : List PropertyWrite :=
  firstSeenWrite "r" :: rel.properties.writes "r"

theorem Plan.passes_link (left right : String) (rel : Relationship) :
    clausesPasses [mergeLink left rel right, .set (setFields "r" rel.properties)] =
      [rel.writes] := by
  simp [clausesPasses, Clause.passes, mergeLink, setFirstSeen, filterMap_setFields, Path.nodes,
    NodePattern.writes, SetItem.write?, Relationship.writes, firstSeenWrite]

/-- What a row assigns to a node of a schema. -/
def NodeSchema.writes (s : NodeSchema) : List PropertyWrite :=
  (s.identity.map fun (key, value) => { var := "i", key, value, part := .merged }) ++
    firstSeenWrite "i" :: s.assigned.writes "i"

/-- A row assigns to its node, and in one branch to a link of one relationship. -/
theorem NodeSchema.passes_ingestion (s : NodeSchema) : clausesPasses s.ingestion =
    if s.relationships.isEmpty then [s.writes]
    else s.relationships.map fun rel => s.writes ++ rel.writes := by
  have hattach (rel : Relationship) : clausesPasses (attach rel) = [rel.writes] := by
    have hlink := passes_link "i" "j" rel
    simpa [attach, clausesPasses, Clause.passes] using hlink
  have hnode : clausesPasses [unwindRows,
      .merge { start := { var := some "i", labels := [s.label], props := s.identity } }
        [setFirstSeen "i"],
      .set (setFields "i" (s.properties.filter fun entry => entry.1 != idKey))] = [s.writes] := by
    simp [clausesPasses, Clause.passes, unwindRows, setFirstSeen, filterMap_setFields, Path.nodes,
      NodePattern.writes, SetItem.write?, NodeSchema.writes, firstSeenWrite, assigned]
  have hlabels : clausesPasses (if s.extraLabels.isEmpty then [] else
      [.set [.labels "i" s.extraLabels]]) = [[]] := by
    split <;> simp [clausesPasses, Clause.passes, SetItem.write?]
  unfold ingestion
  rw [clausesPasses_append, clausesPasses_append, hnode, hlabels]
  -- the node has one way through it, and the call one for each relationship
  split
  · simp [clausesPasses]
  · simp [clausesPasses, Clause.passes, branchesPasses_map hattach]

theorem Matchlink.passes_ingestion (m : Matchlink) :
    clausesPasses m.ingestion = [m.relationship.writes] := by
  have hlink := passes_link "src" "tgt" m.relationship
  simpa [ingestion, unwindRows, clausesPasses, Clause.passes] using hlink

/-! ## No property twice -/

namespace Cypher

/-- No property is assigned to more than once. -/
def AssignsOnce (ws : List PropertyWrite) : Prop := (ws.map PropertyWrite.slot).Nodup

variable {ws ws' : List PropertyWrite}

/-- What is assigned to different variables does not meet. -/
theorem assignsOnce_append (hvars : ∀ w ∈ ws, ∀ w' ∈ ws', w.var ≠ w'.var) :
    AssignsOnce (ws ++ ws') ↔ AssignsOnce ws ∧ AssignsOnce ws' := by
  unfold AssignsOnce
  rw [List.map_append, List.nodup_append']
  refine ⟨fun h => ⟨h.1, h.2.1⟩, fun h => ⟨h.1, h.2, ?_⟩⟩
  intro slot hslot hslot'
  obtain ⟨w, hw, rfl⟩ := List.mem_map.1 hslot
  obtain ⟨w', hw', heq⟩ := List.mem_map.1 hslot'
  exact hvars w hw w' hw' (Prod.ext_iff.1 heq).1.symm

theorem AssignsOnce.filter (h : AssignsOnce ws) (keep : PropertyWrite → Bool) :
    AssignsOnce (ws.filter keep) :=
  h.sublist (List.filter_sublist.map _)

end Cypher

theorem Fields.slots_writes (fields : Fields) (var : String) :
    (fields.writes var).map PropertyWrite.slot = fields.keys.map fun key => (var, key) := by
  simp only [writes, keys, List.map_map, Function.comp_def, PropertyWrite.slot]

theorem Fields.assignsOnce_writes {fields : Fields} (h : fields.keys.Nodup) (var : String) :
    AssignsOnce (fields.writes var) := by
  unfold AssignsOnce
  rw [slots_writes]
  exact h.map fun _ _ heq => (Prod.ext_iff.1 heq).2

/-- Fields can be set beside the time of creation unless that is one of them. -/
theorem assignsOnce_firstSeen {fields : Fields} (h : fields.keys.Nodup) (var : String) :
    AssignsOnce (firstSeenWrite var :: fields.writes var) ↔ firstSeenKey ∉ fields.keys := by
  have hmem : (firstSeenWrite var).slot ∈ (fields.writes var).map PropertyWrite.slot ↔
      firstSeenKey ∈ fields.keys := by
    rw [Fields.slots_writes]
    simp [PropertyWrite.slot, firstSeenWrite]
  unfold AssignsOnce
  rw [List.map_cons, List.nodup_cons, hmem]
  exact and_iff_left (Fields.assignsOnce_writes h var)

namespace NodeSchema

variable {s : NodeSchema}

theorem nodup_assigned (hs : s.Built) : s.assigned.keys.Nodup :=
  hs.checked.nodup.sublist (List.filter_sublist.map _)

theorem firstSeen_mem_assigned :
    firstSeenKey ∈ s.assigned.keys ↔ firstSeenKey ∈ s.properties.keys := by
  have hne : firstSeenKey ≠ idKey := by decide
  simp [assigned, Fields.keys, hne]

/-- The id is merged, and no later part assigns to it again. -/
theorem exists_merged (hs : s.Built) : ∃ w : PropertyWrite, w.slot = ("i", idKey) ∧
    s.writes = w :: firstSeenWrite "i" :: s.assigned.writes "i" ∧
    w.slot ∉ (firstSeenWrite "i" :: s.assigned.writes "i").map PropertyWrite.slot := by
  obtain ⟨r, hr⟩ := hs.exists_id
  refine ⟨{ var := "i", key := idKey, value := r.expr, part := .merged }, rfl, ?_, ?_⟩
  · simp [writes, identity, hr]
  · have hne : idKey ≠ firstSeenKey := by decide
    rw [List.map_cons, Fields.slots_writes]
    simp [PropertyWrite.slot, firstSeenWrite, hne, id_not_assigned]

theorem assignsOnce_writes (hs : s.Built) :
    AssignsOnce s.writes ↔ firstSeenKey ∉ s.properties.keys := by
  obtain ⟨w, -, hwrites, hw⟩ := exists_merged hs
  rw [← firstSeen_mem_assigned, ← assignsOnce_firstSeen (nodup_assigned hs) "i", hwrites]
  unfold AssignsOnce at *
  rw [List.map_cons, List.nodup_cons]
  exact and_iff_right hw

end NodeSchema

/-! ## All but the time of creation -/

/-- An assignment to another property than the time of creation. -/
def Cypher.PropertyWrite.isOther (w : PropertyWrite) : Bool := w.key != firstSeenKey

theorem filter_firstSeen (var : String) (ws : List PropertyWrite) :
    (firstSeenWrite var :: ws).filter PropertyWrite.isOther = ws.filter PropertyWrite.isOther :=
  List.filter_cons_of_neg (by simp [PropertyWrite.isOther, firstSeenWrite])

theorem Relationship.assignsOnce_others {rel : Relationship} (h : rel.properties.keys.Nodup) :
    AssignsOnce (rel.writes.filter PropertyWrite.isOther) := by
  rw [Relationship.writes, filter_firstSeen]
  exact (Fields.assignsOnce_writes h "r").filter _

theorem NodeSchema.assignsOnce_others {s : NodeSchema} (hs : s.Built) :
    AssignsOnce (s.writes.filter PropertyWrite.isOther) := by
  obtain ⟨w, hslot, hwrites, hw⟩ := NodeSchema.exists_merged hs
  -- the id stays when the time of creation is left out
  have hother : w.isOther = true := by
    obtain ⟨-, hkey⟩ := Prod.ext_iff.1 hslot
    have hid : w.key = idKey := hkey
    rw [PropertyWrite.isOther, hid]
    decide
  rw [hwrites, List.filter_cons_of_pos hother, filter_firstSeen]
  unfold AssignsOnce
  rw [List.map_cons, List.nodup_cons]
  refine ⟨fun hmem => hw ?_, (Fields.assignsOnce_writes (nodup_assigned hs) "i").filter _⟩
  exact List.mem_cons_of_mem _ ((List.filter_sublist.map PropertyWrite.slot).subset hmem)

/-! ## Schemas -/

namespace Schema

/-- What a row may assign in one pass of the ingestion of a schema. -/
def passes (schema : Schema) : List (List PropertyWrite) := clausesPasses schema.ingestion

/-- The lists of properties that a schema declares, of its nodes and of its
    relationships. -/
def propertyLists : Schema → List Fields
  | .node s => s.properties :: s.relationships.map Relationship.properties
  | .matchlink m => [m.relationship.properties]

/-- The time of creation is not declared as a property. -/
def LeavesFirstSeen (schema : Schema) : Prop :=
  ∀ fields ∈ schema.propertyLists, firstSeenKey ∉ fields.keys

theorem mem_passes_node {s : NodeSchema} {ws : List PropertyWrite} :
    ws ∈ (Schema.node s).passes ↔ s.relationships = [] ∧ ws = s.writes ∨
      ∃ rel ∈ s.relationships, ws = s.writes ++ rel.writes := by
  unfold passes ingestion
  rw [NodeSchema.passes_ingestion]
  split
  · next h => simp [List.isEmpty_iff.1 h]
  · next h =>
    have hne : s.relationships ≠ [] := by simpa using h
    simp [hne, eq_comm]

theorem mem_passes_matchlink {m : Matchlink} {ws : List PropertyWrite} :
    ws ∈ (Schema.matchlink m).passes ↔ ws = m.relationship.writes := by
  unfold passes ingestion
  rw [Matchlink.passes_ingestion, List.mem_singleton]

/-- A node and a link are different variables. -/
theorem vars_ne {s : NodeSchema} {rel : Relationship} :
    ∀ w ∈ s.writes, ∀ w' ∈ rel.writes, w.var ≠ w'.var := by
  have hnode : ∀ w ∈ s.writes, w.var = "i" := by
    intro w hw
    simp only [NodeSchema.writes, Fields.writes, List.mem_append, List.mem_cons, List.mem_map] at hw
    obtain ⟨-, -, rfl⟩ | rfl | ⟨-, -, rfl⟩ := hw <;> rfl
  have hlink : ∀ w ∈ rel.writes, w.var = "r" := by
    intro w hw
    simp only [Relationship.writes, Fields.writes, List.mem_cons, List.mem_map] at hw
    obtain rfl | ⟨-, -, rfl⟩ := hw <;> rfl
  intro w hw w' hw'
  rw [hnode w hw, hlink w' hw']
  decide

variable {schema : Schema}

/-- No pass assigns twice to a property, just when the time of creation is not
    declared. -/
theorem assignsOnce_iff (hschema : schema.Built) :
    (∀ ws ∈ schema.passes, AssignsOnce ws) ↔ schema.LeavesFirstSeen := by
  cases schema with
  | matchlink m =>
    have hm : m.Built := hschema
    simp only [mem_passes_matchlink, forall_eq, LeavesFirstSeen, propertyLists,
      List.forall_mem_singleton]
    exact assignsOnce_firstSeen hm.relationship.recorded.nodup "r"
  | node s =>
    have hs : s.Built := hschema
    have hlink (rel : Relationship) (hrel : rel ∈ s.relationships) :
        AssignsOnce rel.writes ↔ firstSeenKey ∉ rel.properties.keys :=
      assignsOnce_firstSeen (hs.relationships rel hrel).recorded.nodup "r"
    simp only [LeavesFirstSeen, propertyLists, List.forall_mem_cons, List.forall_mem_map]
    constructor
    · intro h
      -- the node is on every way, so any of them tells about it
      have hboth (rel : Relationship) (hrel : rel ∈ s.relationships) :
          AssignsOnce s.writes ∧ AssignsOnce rel.writes :=
        (assignsOnce_append vars_ne).1 (h _ (mem_passes_node.2 (.inr ⟨rel, hrel, rfl⟩)))
      refine ⟨(NodeSchema.assignsOnce_writes hs).1 ?_, fun rel hrel =>
        (hlink rel hrel).1 (hboth rel hrel).2⟩
      cases hrels : s.relationships with
      | nil => exact h _ (mem_passes_node.2 (.inl ⟨hrels, rfl⟩))
      | cons rel rest => exact (hboth rel (hrels ▸ List.mem_cons_self)).1
    · rintro ⟨hnode, hrels⟩ ws hws
      have hwrites := (NodeSchema.assignsOnce_writes hs).2 hnode
      rcases mem_passes_node.1 hws with ⟨-, rfl⟩ | ⟨rel, hrel, rfl⟩
      · exact hwrites
      · exact (assignsOnce_append vars_ne).2 ⟨hwrites, (hlink rel hrel).2 (hrels rel hrel)⟩

/-- No other property is assigned to twice in one pass. -/
theorem assignsOnce_others (hschema : schema.Built) :
    ∀ ws ∈ schema.passes, AssignsOnce (ws.filter PropertyWrite.isOther) := by
  intro ws hws
  cases schema with
  | matchlink m =>
    have hm : m.Built := hschema
    rw [mem_passes_matchlink.1 hws]
    exact Relationship.assignsOnce_others hm.relationship.recorded.nodup
  | node s =>
    have hs : s.Built := hschema
    have hwrites := NodeSchema.assignsOnce_others hs
    rcases mem_passes_node.1 hws with ⟨-, rfl⟩ | ⟨rel, hrel, rfl⟩
    · exact hwrites
    · rw [List.filter_append, assignsOnce_append fun w hw w' hw' =>
        vars_ne w (List.mem_filter.1 hw).1 w' (List.mem_filter.1 hw').1]
      exact ⟨hwrites, Relationship.assignsOnce_others (hs.relationships rel hrel).recorded.nodup⟩

/-- Where it is not declared, the time of creation is assigned on creation
    only. -/
theorem LeavesFirstSeen.created (h : schema.LeavesFirstSeen) :
    ∀ ws ∈ schema.passes, ∀ w ∈ ws, w.key = firstSeenKey → w.part = .created := by
  have hfields {fields : Fields} {var : String} {w : PropertyWrite} (hw : w ∈ fields.writes var) :
      w.key ∈ fields.keys := by
    obtain ⟨entry, hentry, rfl⟩ := List.mem_map.1 hw
    exact List.mem_map_of_mem hentry
  have hrel {rel : Relationship} (hrel : firstSeenKey ∉ rel.properties.keys) :
      ∀ w ∈ rel.writes, w.key = firstSeenKey → w.part = .created := by
    intro w hw hkey
    rcases List.mem_cons.1 hw with rfl | hw
    · rfl
    · exact absurd (hkey ▸ hfields hw) hrel
  intro ws hws w hw hkey
  cases schema with
  | matchlink m =>
    rw [mem_passes_matchlink.1 hws] at hw
    exact hrel (h _ (List.mem_singleton_self _)) w hw hkey
  | node s =>
    have hnode : w ∈ s.writes → w.part = .created := by
      intro hw
      simp only [NodeSchema.writes, List.mem_append, List.mem_cons, List.mem_map] at hw
      rcases hw with ⟨entry, hentry, rfl⟩ | rfl | hw
      · obtain ⟨r, -, rfl⟩ := List.mem_map.1 hentry
        exact absurd hkey (show idKey ≠ firstSeenKey by decide)
      · rfl
      · exact absurd (NodeSchema.firstSeen_mem_assigned.1 (hkey ▸ hfields hw))
          (h _ List.mem_cons_self)
    rcases mem_passes_node.1 hws with ⟨-, rfl⟩ | ⟨rel, hmem, rfl⟩
    · exact hnode hw
    · rcases List.mem_append.1 hw with hw | hw
      · exact hnode hw
      · exact hrel (h _ (List.mem_cons_of_mem _ (List.mem_map_of_mem hmem))) w hw hkey

end Schema

/-! ## Later loads -/

/-- Every element of the first graph is in the second, with the same value
    under a key. -/
def Graph.Keeps (key : String) (g g' : Graph) : Prop :=
  ∀ e, g.has e = true → g'.has e = true ∧ g'.prop e key = g.prop e key

namespace Graph.Keeps

variable {key : String} {g g₁ g₂ : Graph}

theorem refl (key : String) (g : Graph) : g.Keeps key g := fun _ he => ⟨he, rfl⟩

theorem trans (h : g.Keeps key g₁) (h' : g₁.Keeps key g₂) : g.Keeps key g₂ := by
  intro e he
  obtain ⟨he₁, hsame⟩ := h e he
  obtain ⟨he₂, hsame'⟩ := h' e he₁
  exact ⟨he₂, hsame'.trans hsame⟩

end Graph.Keeps

/-- Strokes keep what none of them assigns to. -/
theorem Draws.keeps {cx : Context} {ks : List Stroke} {st st' : Store} (h : Draws cx ks st st')
    {key : String} (hkey : ∀ k ∈ ks, key ∉ k.rel.properties.keys) :
    st.graph.Keeps key st'.graph := by
  intro e he
  cases e with
  | node n =>
    rw [Graph.has_node] at he
    refine ⟨?_, by rw [h.node n]⟩
    rw [Graph.has_node, h.nodes]
    exact he
  | link l =>
    have hl := h.mem_links ((st.graph.has_link l).1 he)
    refine ⟨(st'.graph.has_link l).2 hl, ?_⟩
    rw [h.rest l hl fun k hk hsets => hkey k hk hsets.2, Graph.merged_old he]

/-- The nodes of a batch keep what is not a property of the schema. -/
theorem NodeSchema.Populates.keeps {s : NodeSchema} {cx : Context} {batch : List Json}
    {st st' : Store} (h : s.Populates cx batch st st') {key : String} (hid : key ≠ idKey)
    (hkey : key ∉ s.assigned.keys) : st.graph.Keeps key st'.graph := by
  intro e he
  cases e with
  | node n =>
    have hn := h.nodes.subset ((st.graph.has_node n).1 he)
    refine ⟨(st'.graph.has_node n).2 hn, ?_⟩
    by_cases hreported : s.Reported cx batch st'.graph n
    · -- what is not a property of the schema, a row does not set
      rw [h.rest hreported hid hkey, Graph.merged_old he]
    · rw [Graph.prop_of_node_eq (h.others n hreported)]
  | link l =>
    refine ⟨?_, by rw [h.link l]⟩
    rw [Graph.has_link] at he ⊢
    rw [h.links]
    exact he

namespace Schema

variable {schema : Schema}

/-- One ingestion keeps the times of creation. -/
theorem LeavesFirstSeen.ingestion_keeps (h : schema.LeavesFirstSeen) (hschema : schema.Built)
    {cx : Context} {batch : List Json} (hbatch : cx.params.value rowsParam = .array batch)
    {st st' : Store} {rows : List Binding} (hexec : schema.ingestion.Exec cx st st' rows) :
    st.graph.Keeps firstSeenKey st'.graph := by
  cases schema with
  | node s =>
    have hs : s.Built := hschema
    obtain ⟨st₁, hpopulates, hdraws⟩ := NodeSchema.ingestion_outcome hs hbatch hexec
    -- first the nodes of the batch, and then the links between them
    refine (hpopulates.keeps (by decide) ?_).trans (hdraws.keeps ?_)
    · rw [NodeSchema.firstSeen_mem_assigned]
      exact h _ List.mem_cons_self
    · intro k hk
      obtain ⟨-, -, hrel, -, -⟩ := NodeSchema.mem_strokes.1 hk
      exact h _ (List.mem_cons_of_mem _ (List.mem_map_of_mem hrel))
  | matchlink m =>
    have hm : m.Built := hschema
    refine (Matchlink.ingestion_strokes hm.relationship.recorded.nodup hbatch hexec).keeps ?_
    intro k hk
    rw [(Matchlink.mem_strokes.1 hk).1]
    exact h _ (List.mem_singleton_self _)

/-- `schema.Reloads lower s s'`: any number of loads by the schema, each of
    which may fail or be cut off, lead from `s` to `s'`. -/
inductive Reloads (schema : Schema) (lower : String → String) : Store → Store → Prop where
  | none (s : Store) : Reloads schema lower s s
  | load {ε : Type} {rows : List Row} {p : Parameters} {o : SyncOptions} {load : Load}
      {tasks : List Task} {s s₁ s' : Store} {replies : List (Reply ε)}
      (before : Reloads schema lower s s₁) (loads : schema.load rows p o = .ok load)
      (carries : schema.Carries p load tasks) (session : Session lower tasks s₁ replies s') :
      Reloads schema lower s s'

/-- All loads keep the times of creation, whatever their parameters and rows. -/
theorem Reloads.keeps_firstSeen {lower : String → String} {s s' : Store}
    (h : schema.Reloads lower s s') (hschema : schema.Built) (hleaves : schema.LeavesFirstSeen) :
    s.graph.Keeps firstSeenKey s'.graph := by
  induction h with
  | none s => exact Graph.Keeps.refl firstSeenKey s.graph
  | @load ε rows p o load tasks s s₁ s' replies before loads carries session ih =>
    refine carries.invariant (I := fun st => s.graph.Keeps firstSeenKey st.graph) session ?_ ih
    intro batch now st rows st' hexec hst
    exact hst.trans
      (hleaves.ingestion_keeps hschema (Parameters.value_insert_self _ _ _) hexec)

end Schema

/-- In one pass of an accepted schema no property is assigned to twice, but for
    the time of creation, and that is not either just when the schema does not
    declare it.  Then it is assigned on creation only, and an element that is
    there keeps it through all later loads. -/
theorem firstSeen_is_written_once_iff_undeclared (schema : Schema) (hschema : schema.Built) :
    (∀ ws ∈ schema.passes, AssignsOnce (ws.filter PropertyWrite.isOther)) ∧
    ((∀ ws ∈ schema.passes, AssignsOnce ws) ↔ schema.LeavesFirstSeen) ∧
    (schema.LeavesFirstSeen →
      (∀ ws ∈ schema.passes, ∀ w ∈ ws, w.key = firstSeenKey → w.part = .created) ∧
      ∀ lower s s', schema.Reloads lower s s' → s.graph.Keeps firstSeenKey s'.graph) := by
  refine ⟨schema.assignsOnce_others hschema, schema.assignsOnce_iff hschema, fun hleaves => ?_⟩
  exact ⟨hleaves.created, fun lower s s' h => h.keeps_firstSeen hschema hleaves⟩

/-! ## A schema that declares the time of creation -/

namespace Sample

/-- Hosts whose rows may say when they were created. -/
def dated (declared : Bool) : NodeSchema where
  label := "Host"
  properties :=
    [(idKey, .row "id"), (lastUpdatedKey, .param lastUpdatedKey)] ++
      if declared then [(firstSeenKey, .row "created")] else []
  extraLabels := []
  scope := .relationshipsOnly
  others := []

theorem dated_built (declared : Bool) : (Schema.node (dated declared)).Built := by
  refine ⟨⟨{ label := "Host", properties := (dated declared).properties }, ?_⟩, ?_⟩
  · cases declared <;> rfl
  · intro rel hrel
    cases hrel

/-- A row that says so. -/
def datedRow : Json := .object [("created", .ofInt64 9), ("id", .string "a")]

/-- The host, as it was first seen at 5. -/
def datedHost : Graph where
  nodes := [2]
  links := []
  labels _ := {"Host"}
  type _ := ""
  source _ := 0
  target _ := 0
  prop e key :=
    match e, key with
    | .node 2, "id" => .string "a"
    | .node 2, "firstseen" => .ofInt64 5
    | _, _ => .null
  nodes_nodup := List.nodup_singleton 2
  links_nodup := List.nodup_nil
  ends_mem := fun _ hl => absurd hl List.not_mem_nil

/-- The tasks of a load of the row in run 2. -/
def datedTasks (declared : Bool) : List Task :=
  [.index (.node "Host" idKey), .index (.node "Host" lastUpdatedKey),
   .batch (dated declared).ingestion (Parameters.forRun 2) [datedRow]]

theorem dated_load (declared : Bool) : ∃ load,
    (Schema.node (dated declared)).load [.ok datedRow] (Parameters.forRun 2) {} = .ok load ∧
      (Schema.node (dated declared)).Carries (Parameters.forRun 2) load (datedTasks declared) := by
  have hchecked : checkRows [.ok datedRow] = .ok [datedRow] := rfl
  have hreads : ∀ name ∈ clauseParams (dated declared).ingestion,
      name = rowsParam ∨ (Parameters.forRun 2).contains name = true := by
    cases declared <;> decide
  refine ⟨_, Load.prepare_eq_ok "Host" (dated declared).indexes {} rfl hreads hchecked, ?_, ?_⟩
  · have hindexes : (dated declared).indexes =
        [.node "Host" idKey, .node "Host" lastUpdatedKey] := by
      cases declared <;> decide
    have hbatches : batches 10000 [datedRow] = [[datedRow]] := by simp [batches]
    show _ = indexStages (dated declared).indexes ++ (batches 10000 [datedRow]).map _
    rw [hindexes, hbatches]
    rfl
  · intro t ht
    rcases List.mem_cons.1 ht with rfl | ht
    · exact .inl ⟨_, rfl⟩
    · rcases List.mem_pair.1 ht with rfl | rfl
      · exact .inl ⟨_, rfl⟩
      · exact .inr ⟨_, rfl⟩

/-- What the load is evaluated with. -/
def datedContext : Context where
  params := (Parameters.forRun 2).insert rowsParam (.array [datedRow])
  now := 7
  lower := id

/-- The load finds the host, and sets the time if that is declared. -/
theorem dated_exec (declared : Bool) : ∃ s' rows,
    (dated declared).ingestion.Exec datedContext { graph := datedHost, written := [] } s' rows ∧
    s'.graph.prop (.node 2) firstSeenKey = .ofInt64 (if declared then 9 else 5) := by
  have hfound : Path.matches datedContext datedHost (NodeSchema.unbound datedRow)
      { start := (dated declared).pattern } = [NodeSchema.bound datedRow 2] := by
    cases declared <;> rfl
  have hmerge : (Clause.merge { start := (dated declared).pattern } [setFirstSeen "i"]).Exec
      datedContext
      { store := { graph := datedHost, written := [] }, rows := [NodeSchema.unbound datedRow] }
      { store := { graph := datedHost, written := [] }
        rows := [NodeSchema.bound datedRow 2] } := by
    refine ⟨[NodeSchema.bound datedRow 2], _, [], .inl ⟨?_, hfound.symm, rfl⟩, ⟨rfl, rfl⟩, rfl⟩
    rw [hfound]
    exact List.cons_ne_nil _ _
  have hset : ∃ s', (Clause.set (setFields "i" (dated declared).assigned)).Exec datedContext
      { store := { graph := datedHost, written := [] }, rows := [NodeSchema.bound datedRow 2] }
      { store := s', rows := [NodeSchema.bound datedRow 2] } ∧
      s'.graph.prop (.node 2) firstSeenKey = .ofInt64 (if declared then 9 else 5) := by
    cases declared with
    | true =>
      exact ⟨_, ⟨[NodeSchema.bound datedRow 2], _, [], ⟨rfl, rfl⟩, ⟨rfl, rfl⟩, rfl⟩, rfl⟩
    | false =>
      exact ⟨_, ⟨[NodeSchema.bound datedRow 2], _, [], ⟨rfl, rfl⟩, ⟨rfl, rfl⟩, rfl⟩, rfl⟩
  obtain ⟨s', hset, hvalue⟩ := hset
  exact ⟨s', _, ⟨_, rfl, _, hmerge, _, hset, rfl⟩, hvalue⟩

/-- All of the load, task by task. -/
theorem dated_reloads (declared : Bool) : ∃ s',
    (Schema.node (dated declared)).Reloads id { graph := datedHost, written := [] } s' ∧
    s'.graph.prop (.node 2) firstSeenKey = .ofInt64 (if declared then 9 else 5) := by
  obtain ⟨load, hload, hcarries⟩ := dated_load declared
  obtain ⟨s', rows, hexec, hvalue⟩ := dated_exec declared
  have hindex := Task.index_answers id
  have hbatch : (Task.batch (dated declared).ingestion (Parameters.forRun 2) [datedRow]).Answers id
      { graph := datedHost, written := [] } 0 s' := ⟨7, rows, hexec, trivial⟩
  have hsession : Session (ε := String) id (datedTasks declared)
      { graph := datedHost, written := [] } [.ok 0, .ok 0, .ok 0] s' :=
    .answered (hindex _ _) (.answered (hindex _ _) (.answered hbatch (.pause [] s')))
  exact ⟨s', .load (.none _) hload hcarries hsession, hvalue⟩

end Sample

/-- A schema that does not declare the time of creation, with a load of a host
    that is there. -/
theorem undeclared_firstSeen_is_kept :
    (Schema.node (Sample.dated false)).Built ∧ (Schema.node (Sample.dated false)).LeavesFirstSeen ∧
    (∀ ws ∈ (Schema.node (Sample.dated false)).passes, AssignsOnce ws) ∧
    ∃ s', (Schema.node (Sample.dated false)).Reloads id
        { graph := Sample.datedHost, written := [] } s' ∧
      s'.graph.prop (.node 2) firstSeenKey = .ofInt64 5 := by
  have hleaves : (Schema.node (Sample.dated false)).LeavesFirstSeen := by
    unfold Schema.LeavesFirstSeen
    decide
  obtain ⟨-, honce, hlater⟩ :=
    firstSeen_is_written_once_iff_undeclared (.node (Sample.dated false)) (Sample.dated_built false)
  obtain ⟨s', hreloads, -⟩ := Sample.dated_reloads false
  obtain ⟨-, hkept⟩ := (hlater hleaves).2 id _ s' hreloads (.node 2) (by decide)
  exact ⟨Sample.dated_built false, hleaves, honce.2 hleaves, s', hreloads, hkept⟩

/-- The builder lets a schema declare it all the same.  One pass assigns to it
    twice, and a later load replaces the time at which the host was first
    seen. -/
theorem declared_firstSeen_is_overwritten :
    (Schema.node (Sample.dated true)).Built ∧
    ¬ (∀ ws ∈ (Schema.node (Sample.dated true)).passes, AssignsOnce ws) ∧
    ∃ s', (Schema.node (Sample.dated true)).Reloads id
        { graph := Sample.datedHost, written := [] } s' ∧
      ¬ Sample.datedHost.Keeps firstSeenKey s'.graph := by
  refine ⟨Sample.dated_built true, ?_, ?_⟩
  · rw [Schema.assignsOnce_iff (Sample.dated_built true)]
    unfold Schema.LeavesFirstSeen
    decide
  · obtain ⟨s', hreloads, hvalue⟩ := Sample.dated_reloads true
    refine ⟨s', hreloads, fun hkeeps => ?_⟩
    obtain ⟨-, hkept⟩ := hkeeps (.node 2) (by decide)
    have htimes : Json.ofInt64 9 = Json.ofInt64 5 := hvalue.symm.trans hkept
    have hsame := congrArg (fun v => v.same (.ofInt64 5)) htimes
    exact absurd hsame (by decide)

end GraphSync
