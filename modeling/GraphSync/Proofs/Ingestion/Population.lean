import GraphSync.Proofs.Ingestion.Nodes
import GraphSync.Proofs.Ingestion.Strokes

/-! # Nodes of a batch

    The first clauses of an ingestion merge the nodes of a batch and then assign
    to them.

    * `Gains` is what happens to ids: no node gets another, and a new node does
      not share its own.
    * `Enrols` is what the merges do: each id gets one node, unless it had some,
      and the rows that are left are those of the batch with the nodes of their
      ids (`merges_batch`).
    * `Fills` is what the assignments do: each node that a row reports gets the
      extra labels, and the values of the last row that reports it
      (`fills_of_assigns`).
    * `Populates` is both, one after the other (`populates`). -/

namespace GraphSync

open Cypher Plan

namespace NodeSchema

variable {s : NodeSchema} {cx : Context} {r : Reference} {row : Json} {batch batch' : List Json}
  {st st' st₁ st₂ st₃ : Store} {v : Json} {n m : Nat}

/-! ## Graphs with more nodes -/

/-- `s.Gains g g'`: there are more nodes.  Those that there were keep their ids,
    and a new one is the only one with its id. -/
structure Gains (s : NodeSchema) (g g' : Graph) : Prop where
  nodes : g.nodes <+: g'.nodes
  old   : ∀ n ∈ g.nodes, ∀ v, s.Identifies g' v n ↔ s.Identifies g v n
  new   : ∀ n ∈ g'.nodes, n ∉ g.nodes → ∃ v, ∀ m, s.Identifies g' v m ↔ m = n

namespace Gains

variable {g g' : Graph}

theorem identifies_new (h : s.Gains g g') (hn : s.Identifies g' v n) (hnew : n ∉ g.nodes) :
    s.Identifies g' v m ↔ m = n := by
  obtain ⟨w, hall⟩ := h.new n hn.1 hnew
  have hsame := hn.same ((hall n).2 rfl)
  constructor
  · intro hm
    exact (hall m).1 (hm.of_same hsame)
  · intro hm
    rw [hm]
    exact hn

/-- An id that had a node gets no other. -/
theorem mem_of_identifies (h : s.Gains g g') (hm : s.Identifies g v m)
    (hn : s.Identifies g' v n) : n ∈ g.nodes := by
  by_contra hnew
  -- the node that had the id would be the new one
  have hmn : m = n := (h.identifies_new hn hnew).1 ((h.old m hm.1 v).2 hm)
  exact hnew (hmn ▸ hm.1)

theorem identifies_iff (h : s.Gains g g') (hm : s.Identifies g v m) :
    s.Identifies g' v n ↔ s.Identifies g v n := by
  constructor
  · intro hn
    exact (h.old n (h.mem_of_identifies hm hn) v).1 hn
  · intro hn
    exact (h.old n hn.1 v).2 hn

/-- It has the same nodes, in the same order. -/
theorem nodesOf_eq (h : s.Gains g g') (hm : s.Identifies g v m) :
    s.nodesOf g' v = s.nodesOf g v := by
  unfold nodesOf
  rw [filter_longer h.nodes g'.nodes_nodup]
  · apply List.filter_congr
    intro n hn
    rw [decide_eq_decide]
    have hiff := h.old n hn v
    unfold Identifies at hiff
    rwa [and_iff_right (h.nodes.subset hn), and_iff_right hn] at hiff
  · intro n hn hnew hid
    exact hnew (h.mem_of_identifies hm ⟨hn, by simpa using hid⟩)

end Gains

/-! ## Merging -/

/-- What a new node is, before any assignment. -/
def newNode (s : NodeSchema) (cx : Context) (row : Json) : NodeData where
  labels := {s.label}
  props := fun key => if key = firstSeenKey then .ofInt64 cx.now else s.idProps cx.params row key

/-- The rows of a batch, each with the nodes of its id. -/
def spread (s : NodeSchema) (p : Parameters) (g : Graph) (batch : List Json) : List Binding :=
  batch.flatMap fun row => (s.nodesOf g (s.idOf p row)).map (bound row)

/-- What the merges of a batch do to a store. -/
structure Enrols (s : NodeSchema) (cx : Context) (batch : List Json) (st st' : Store) : Prop where
  nodes : st.graph.nodes <+: st'.graph.nodes
  links : st'.graph.links = st.graph.links
  ends  : ∀ l, st'.graph.ends l = st.graph.ends l
  link  : ∀ l, st'.graph.prop (.link l) = st.graph.prop (.link l)
  found : ∀ row ∈ batch, ∃ n, s.Identifies st'.graph (s.idOf cx.params row) n
  old   : ∀ n, (n ∈ st'.graph.nodes → n ∈ st.graph.nodes) → st'.graph.node n = st.graph.node n
  /-- A new node is made for the first row that reports it. -/
  new   : ∀ n ∈ st'.graph.nodes, n ∉ st.graph.nodes → ∃ row,
    IsFirst (fun row => s.Identifies st'.graph (s.idOf cx.params row) n) batch row ∧
      st'.graph.node n = s.newNode cx row ∧
        ∀ m, s.Identifies st'.graph (s.idOf cx.params row) m ↔ m = n
  written : ∀ e ∈ st'.written, e ∈ st.written ∨
    ∃ n, e = .node n ∧ ∃ row ∈ batch, s.Identifies st'.graph (s.idOf cx.params row) n

namespace Enrols

theorem refl (s : NodeSchema) (cx : Context) (st : Store) : s.Enrols cx [] st st where
  nodes := List.prefix_refl _
  links := rfl
  ends := fun _ => rfl
  link := fun _ => rfl
  found := by simp
  old := fun _ _ => rfl
  new := fun _ hn hnew => absurd hn hnew
  written := fun _ he => .inl he

theorem node_eq (h : s.Enrols cx batch st st') (hn : n ∈ st.graph.nodes) :
    st'.graph.node n = st.graph.node n :=
  h.old n fun _ => hn

/-- Nodes keep their ids. -/
theorem identifies_iff (h : s.Enrols cx batch st st') (hn : n ∈ st.graph.nodes) :
    s.Identifies st'.graph v n ↔ s.Identifies st.graph v n := by
  unfold Identifies
  rw [h.node_eq hn]
  exact and_congr_left' ⟨fun _ => hn, fun hn => h.nodes.subset hn⟩

theorem gains (h : s.Enrols cx batch st st') : s.Gains st.graph st'.graph where
  nodes := h.nodes
  old := fun n hn v => h.identifies_iff hn
  new := by
    intro n hn hnew
    obtain ⟨row, -, -, hall⟩ := h.new n hn hnew
    exact ⟨_, hall⟩

/-- The merges of one batch and then of another are those of both. -/
theorem trans (h₁₂ : s.Enrols cx batch st₁ st₂) (h₂₃ : s.Enrols cx batch' st₂ st₃) :
    s.Enrols cx (batch ++ batch') st₁ st₃ where
  nodes := h₁₂.nodes.trans h₂₃.nodes
  links := h₂₃.links.trans h₁₂.links
  ends := fun l => (h₂₃.ends l).trans (h₁₂.ends l)
  link := fun l => (h₂₃.link l).trans (h₁₂.link l)
  found := by
    intro row hrow
    rcases List.mem_append.1 hrow with hrow | hrow
    · obtain ⟨n, hn⟩ := h₁₂.found row hrow
      exact ⟨n, (h₂₃.identifies_iff hn.1).2 hn⟩
    · exact h₂₃.found row hrow
  old := by
    intro n hn
    rw [h₂₃.old n fun hn₃ => h₁₂.nodes.subset (hn hn₃)]
    exact h₁₂.old n fun hn₂ => hn (h₂₃.nodes.subset hn₂)
  new := by
    intro n hn hnew
    by_cases hn₂ : n ∈ st₂.graph.nodes
    · obtain ⟨row, hfirst, hdata, hall⟩ := h₁₂.new n hn₂ hnew
      have hfirst' := (IsFirst.congr fun row _ => h₂₃.identifies_iff hn₂).2 hfirst
      refine ⟨row, IsFirst.append_iff.2 (.inl hfirst'), (h₂₃.node_eq hn₂).trans hdata, ?_⟩
      intro m
      -- the id has a node, so later merges add none
      rw [h₂₃.gains.identifies_iff ((hall n).2 rfl)]
      exact hall m
    · obtain ⟨row, hfirst, hdata, hall⟩ := h₂₃.new n hn hn₂
      refine ⟨row, IsFirst.append_iff.2 (.inr ⟨hfirst, ?_⟩), hdata, hall⟩
      -- a row of the first batch has a node already
      intro row' hrow' hbad
      obtain ⟨m, hm⟩ := h₁₂.found row' hrow'
      exact hn₂ (h₂₃.gains.mem_of_identifies hm hbad)
  written := by
    intro e he
    rcases h₂₃.written e he with he | ⟨n, rfl, row, hrow, hn⟩
    · rcases h₁₂.written e he with he | ⟨n, rfl, row, hrow, hn⟩
      · exact .inl he
      · exact .inr ⟨n, rfl, row, List.mem_append_left _ hrow, (h₂₃.identifies_iff hn.1).2 hn⟩
    · exact .inr ⟨n, rfl, row, List.mem_append_right _ hrow, hn⟩

end Enrols

theorem nodesOf_eq_singleton {g : Graph} (h : ∀ m, s.Identifies g v m ↔ m = n) :
    s.nodesOf g v = [n] := by
  have hnodup : (s.nodesOf g v).Nodup := g.nodes_nodup.filter _
  rw [← List.perm_singleton, List.perm_ext_iff_of_nodup hnodup (List.nodup_singleton n)]
  intro m
  rw [mem_nodesOf, h, List.mem_singleton]

/-- To add the node of a row, where none has its id, is a merge of the row. -/
theorem addNode_enrols (cx : Context) (hnull : (s.idOf cx.params row).isNull = false)
    (hstorable : (s.idOf cx.params row).isStorable = true) (hnew : n ∉ st.graph.nodes)
    (hnone : ∀ m, ¬ s.Identifies st.graph (s.idOf cx.params row) m) :
    s.Enrols cx [row] st
      { graph := (st.graph.addNode n {s.label} (s.idProps cx.params row) hnew).setProp (.node n)
          firstSeenKey (.ofInt64 cx.now)
        written := st.written ++ [.node n] ++ [.node n] } := by
  have hmem : n ∈ st.graph.nodes ++ [n] := List.mem_append_right _ (List.mem_singleton_self n)
  have hself : ((st.graph.addNode n {s.label} (s.idProps cx.params row) hnew).setProp (.node n)
      firstSeenKey (.ofInt64 cx.now)).node n = s.newNode cx row := by
    simp [Graph.node, Graph.setProp, Graph.addNode, newNode]
  have hother {m : Nat} (hm : m ≠ n) : ((st.graph.addNode n {s.label} (s.idProps cx.params row)
      hnew).setProp (.node n) firstSeenKey (.ofInt64 cx.now)).node m = st.graph.node m := by
    simp [Graph.node, Graph.setProp, Graph.addNode, hm]
  have hid : s.HasId (s.idOf cx.params row) (s.newNode cx row) := by
    refine ⟨Finset.mem_singleton_self _, ?_⟩
    have hne : idKey ≠ firstSeenKey := by decide
    simp only [newNode, idProps, hne, if_false, if_true]
    exact Json.same_self hstorable hnull
  -- a node is the new one, or one of the others
  have hcases {m : Nat} (hm : m ∈ st.graph.nodes ++ [n]) :
      m = n ∨ m ∈ st.graph.nodes ∧ m ≠ n := by
    rcases List.mem_append.1 hm with hm | hm
    · exact .inr ⟨hm, fun heq => hnew (heq ▸ hm)⟩
    · exact .inl (List.mem_singleton.1 hm)
  constructor
  · exact List.prefix_append _ _
  · rfl
  · exact fun _ => rfl
  · intro l
    funext key
    simp [Graph.setProp, Graph.addNode]
  · intro row' hrow'
    rw [List.mem_singleton.1 hrow']
    exact ⟨n, hmem, hself ▸ hid⟩
  · intro m hm
    exact hother fun heq => hnew (heq ▸ hm (heq ▸ hmem))
  · intro m hm hnot
    obtain rfl := (hcases hm).resolve_right fun hold => hnot hold.1
    refine ⟨row, IsFirst.cons_iff.2 (.inl ⟨rfl, hmem, hself ▸ hid⟩), hself, ?_⟩
    intro m'
    constructor
    · intro hm'
      refine (hcases hm'.1).resolve_right fun hold => hnone m' ⟨hold.1, ?_⟩
      rw [← hother hold.2]
      exact hm'.2
    · rintro rfl
      exact ⟨hmem, hself ▸ hid⟩
  · intro e he
    simp only [List.append_assoc, List.mem_append, List.mem_singleton, or_self] at he
    rcases he with he | rfl
    · exact .inl he
    · exact .inr ⟨n, rfl, row, List.mem_singleton_self row, hmem, hself ▸ hid⟩

/-- One row of the merge. -/
theorem merges_single (hr : s.properties.get? idKey = some r) {out : List Binding}
    (h : Path.Merges cx { start := s.pattern } [setFirstSeen "i"] (unbound row) st out st') :
    s.Enrols cx [row] st st' ∧
      out = (s.nodesOf st'.graph (s.idOf cx.params row)).map (bound row) := by
  have hmatch {b : Binding} : b ∈ Path.matches cx st.graph (unbound row) { start := s.pattern } ↔
      ∃ n, s.Identifies st.graph (s.idOf cx.params row) n ∧ b = bound row n :=
    mem_matches_pattern hr
  rcases h with ⟨hsome, rfl, rfl⟩ | ⟨hnone, b, st₁, hcreates, rfl, hitems⟩
  · -- nodes were found
    obtain ⟨b, hb⟩ := List.exists_mem_of_ne_nil _ hsome
    obtain ⟨n, hn, -⟩ := hmatch.1 hb
    refine ⟨{ Enrols.refl s cx st' with
      found := fun row' hrow' => ⟨n, by rw [List.mem_singleton.1 hrow']; exact hn⟩
      new := fun _ hn hnew => absurd hn hnew
      written := fun _ he => .inl he }, matches_pattern hr⟩
  · -- a node is made, and the time is recorded on it
    obtain ⟨hnull, hstorable, n, hnew, rfl, rfl⟩ := (creates_pattern_iff hr).1 hcreates
    rw [applyItems_firstSeen (x := .node n) (by rfl), Option.some.injEq] at hitems
    subst hitems
    have hfree (m : Nat) : ¬ s.Identifies st.graph (s.idOf cx.params row) m := by
      intro hm
      have hfound := hmatch.2 ⟨m, hm, rfl⟩
      rw [hnone] at hfound
      cases hfound
    have henrols := addNode_enrols cx hnull hstorable hnew hfree
    obtain ⟨row', hfirst, -, hall⟩ := henrols.new n
      (List.mem_append_right _ (List.mem_singleton_self n)) hnew
    rw [List.mem_singleton.1 hfirst.mem] at hall
    exact ⟨henrols, by rw [nodesOf_eq_singleton hall]; rfl⟩

/-- All rows of the merge. -/
theorem merges_batch (hr : s.properties.get? idKey = some r) {out : List Binding}
    (h : EachRow (Path.Merges cx { start := s.pattern } [setFirstSeen "i"]) (batch.map unbound)
      st out st') :
    s.Enrols cx batch st st' ∧ out = s.spread cx.params st'.graph batch := by
  induction batch generalizing st out with
  | nil =>
    obtain ⟨rfl, rfl⟩ := h
    exact ⟨Enrols.refl s cx _, rfl⟩
  | cons row rest ih =>
    obtain ⟨out₁, st₁, out₂, hfirst, hrest, rfl⟩ := h
    obtain ⟨henrols, rfl⟩ := merges_single hr hfirst
    obtain ⟨hlater, rfl⟩ := ih hrest
    refine ⟨henrols.trans hlater, ?_⟩
    obtain ⟨n, hn⟩ := henrols.found row (List.mem_singleton_self row)
    rw [← hlater.gains.nodesOf_eq hn]
    rfl

/-! ## Adding labels -/

/-- What is left when labels are added to the nodes of all rows. -/
structure Labels (names : List String) (rows : List Binding) (st st' : Store) : Prop where
  nodes : st'.graph.nodes = st.graph.nodes
  links : st'.graph.links = st.graph.links
  ends  : ∀ l, st'.graph.ends l = st.graph.ends l
  prop  : st'.graph.prop = st.graph.prop
  added : ∀ n, BoundIn "i" rows (.node n) →
    st'.graph.labels n = st.graph.labels n ∪ names.toFinset
  kept  : ∀ n, ¬ BoundIn "i" rows (.node n) → st'.graph.labels n = st.graph.labels n
  written : ∀ e ∈ st'.written, e ∈ st.written ∨ BoundIn "i" rows e

theorem Labels.refl (names : List String) (st : Store) : Labels names [] st st where
  nodes := rfl
  links := rfl
  ends := fun _ => rfl
  prop := rfl
  added := fun _ hn => by simp [BoundIn] at hn
  kept := fun _ _ => rfl
  written := fun _ he => .inl he

theorem Labels.trans {names : List String} {rows rows' : List Binding}
    (h₁₂ : Labels names rows st₁ st₂) (h₂₃ : Labels names rows' st₂ st₃) :
    Labels names (rows ++ rows') st₁ st₃ where
  nodes := h₂₃.nodes.trans h₁₂.nodes
  links := h₂₃.links.trans h₁₂.links
  ends := fun l => (h₂₃.ends l).trans (h₁₂.ends l)
  prop := h₂₃.prop.trans h₁₂.prop
  added := by
    intro n hn
    by_cases hlater : BoundIn "i" rows' (.node n)
    · rw [h₂₃.added n hlater]
      by_cases hfirst : BoundIn "i" rows (.node n)
      · rw [h₁₂.added n hfirst, Finset.union_assoc, Finset.union_self]
      · rw [h₁₂.kept n hfirst]
    · have hfirst := (boundIn_append.1 hn).resolve_right hlater
      rw [h₂₃.kept n hlater, h₁₂.added n hfirst]
  kept := by
    intro n hn
    obtain ⟨hfirst, hlater⟩ := not_or.1 (mt boundIn_append.2 hn)
    rw [h₂₃.kept n hlater, h₁₂.kept n hfirst]
  written := by
    intro e he
    rw [boundIn_append]
    rcases h₂₃.written e he with he | he
    · exact (h₁₂.written e he).imp_right .inl
    · exact .inr (.inr he)

theorem labels_single {b : Binding} {names : List String} (hb : b "i" = some (.element (.node n)))
    (h : applyItems cx b [.labels "i" names] st = some st') : Labels names [b] st st' := by
  obtain ⟨st₁, hfirst, hlast⟩ := Option.bind_eq_some_iff.1 h
  cases hlast
  simp only [SetItem.apply, hb, Option.some.injEq] at hfirst
  subst hfirst
  have hbound (m : Nat) : BoundIn "i" [b] (.node m) ↔ m = n := by
    unfold BoundIn
    simp [Binding.element?, hb, Cell.element?, eq_comm]
  refine ⟨rfl, rfl, fun _ => rfl, rfl, ?_, ?_, ?_⟩
  · intro m hm
    simp [Graph.addLabels, (hbound m).1 hm]
  · intro m hm
    simp [Graph.addLabels, mt (hbound m).2 hm]
  · intro e he
    rcases List.mem_append.1 he with he | he
    · exact .inl he
    · rw [List.mem_singleton.1 he]
      exact .inr ((hbound n).2 rfl)

/-- All rows of the clause that adds labels. -/
theorem labels_rows {names : List String} {rows out : List Binding}
    (hnodes : ∀ b ∈ rows, ∃ n, b "i" = some (.element (.node n)))
    (h : EachRow (fun b s out s' => applyItems cx b [.labels "i" names] s = some s' ∧ out = [b])
      rows st out st') : Labels names rows st st' := by
  -- the nodes of a row are labelled in the graph that the rows before have left
  induction rows generalizing st out with
  | nil =>
    obtain ⟨-, rfl⟩ := h
    exact Labels.refl names _
  | cons b rest ih =>
    obtain ⟨out₁, st₁, out₂, ⟨happly, -⟩, hlater, -⟩ := h
    obtain ⟨⟨n, hn⟩, hrest⟩ := List.forall_mem_cons.1 hnodes
    exact (labels_single hn happly).trans (ih hrest hlater)

/-- The clause that adds labels, which is there if there are any to add.  It
    leaves the rows. -/
theorem labels_batch {names : List String} {p q : State}
    (hnodes : ∀ b ∈ p.rows, ∃ n, b "i" = some (.element (.node n)))
    (h : clausesExec cx (if names.isEmpty then [] else [.set [.labels "i" names]]) p q) :
    q.rows = p.rows ∧ Labels names p.rows p.store q.store := by
  split at h
  · next hnone =>
    cases h
    obtain rfl : names = [] := List.isEmpty_iff.1 hnone
    refine ⟨rfl, rfl, rfl, fun _ => rfl, rfl, ?_, fun _ _ => rfl, fun _ he => .inl he⟩
    intro n _
    simp
  · obtain ⟨q', hset, rfl⟩ := h
    change EachRow (fun b s out s' => applyItems cx b [.labels "i" names] s = some s' ∧ out = [b])
      p.rows p.store q.rows q.store at hset
    exact ⟨eachRow_rows hset fun _ _ _ _ hstep => hstep.2, labels_rows hnodes hset⟩

/-! ## Assigning -/

/-- Some row of a batch has the id of a node. -/
def Reported (s : NodeSchema) (cx : Context) (batch : List Json) (g : Graph) (n : Nat) : Prop :=
  ∃ row ∈ batch, s.Identifies g (s.idOf cx.params row) n

/-- What the first clauses of an ingestion do to a store. -/
structure Populates (s : NodeSchema) (cx : Context) (batch : List Json) (st st' : Store) :
    Prop where
  nodes : st.graph.nodes <+: st'.graph.nodes
  links : st'.graph.links = st.graph.links
  ends  : ∀ l, st'.graph.ends l = st.graph.ends l
  link  : ∀ l, st'.graph.prop (.link l) = st.graph.prop (.link l)
  found : ∀ row ∈ batch, ∃ n, s.Identifies st'.graph (s.idOf cx.params row) n
  /-- Nodes keep their ids. -/
  old   : ∀ n ∈ st.graph.nodes,
    st'.graph.prop (.node n) idKey = st.graph.prop (.node n) idKey ∧
      ∀ v, s.Identifies st'.graph v n ↔ s.Identifies st.graph v n
  /-- A new node is the only one with its id, and has it from the first row that
      reports the node. -/
  new   : ∀ n ∈ st'.graph.nodes, n ∉ st.graph.nodes → ∃ row,
    IsFirst (fun row => s.Identifies st'.graph (s.idOf cx.params row) n) batch row ∧
      st'.graph.prop (.node n) idKey = s.idOf cx.params row ∧
        ∀ m, s.Identifies st'.graph (s.idOf cx.params row) m ↔ m = n
  labels : ∀ n, s.Reported cx batch st'.graph n → st'.graph.labels n =
    (if n ∈ st.graph.nodes then st.graph.labels n else {s.label}) ∪ s.extraLabels.toFinset
  last  : ∀ {n row key r},
    IsLast (fun row => s.Identifies st'.graph (s.idOf cx.params row) n) batch row →
      (key, r) ∈ s.assigned → st'.graph.prop (.node n) key = r.value cx.params row.member
  rest  : ∀ {n key}, s.Reported cx batch st'.graph n → key ≠ idKey → key ∉ s.assigned.keys →
    st'.graph.prop (.node n) key = st.graph.merged cx.now (.node n) key
  /-- What no row reports stays as it was. -/
  others : ∀ n, ¬ s.Reported cx batch st'.graph n → st'.graph.node n = st.graph.node n
  written : ∀ e ∈ st'.written, e ∈ st.written ∨
    ∃ n, e = .node n ∧ s.Reported cx batch st'.graph n

theorem mem_spread {g : Graph} {b : Binding} : b ∈ s.spread cx.params g batch ↔
    ∃ row ∈ batch, ∃ n, s.Identifies g (s.idOf cx.params row) n ∧ b = bound row n := by
  simp only [spread, List.mem_flatMap, List.mem_map, mem_nodesOf, eq_comm]

theorem element?_bound (row : Json) (n : Nat) : (bound row n).element? "i" = some (.node n) := rfl

theorem boundIn_spread {g : Graph} {e : Element} : BoundIn "i" (s.spread cx.params g batch) e ↔
    ∃ n, e = .node n ∧ s.Reported cx batch g n := by
  constructor
  · rintro ⟨b, hb, he⟩
    obtain ⟨row, hrow, n, hn, rfl⟩ := mem_spread.1 hb
    rw [element?_bound, Option.some.injEq] at he
    exact ⟨n, he.symm, row, hrow, hn⟩
  · rintro ⟨n, rfl, row, hrow, hn⟩
    exact ⟨_, mem_spread.2 ⟨row, hrow, n, hn, rfl⟩, element?_bound row n⟩

/-- The last row that reports a node leads to the last one that binds it. -/
theorem last_spread {g : Graph} (h : IsLast (fun row => s.Identifies g (s.idOf cx.params row) n)
    batch row) : IsLast (fun b => b.element? "i" = some (.node n)) (s.spread cx.params g batch)
      (bound row n) := by
  have hblocks : List.Forall₂
      (fun row block => block = (s.nodesOf g (s.idOf cx.params row)).map (bound row)) batch
      (batch.map fun row => (s.nodesOf g (s.idOf cx.params row)).map (bound row)) :=
    List.forall₂_map_right_iff.2 (List.forall₂_same.2 fun _ _ => rfl)
  obtain ⟨_, rfl, b, hb, hlast⟩ := h.of_blocks hblocks
    (Q := fun b => b.element? "i" = some (.node n)) (by
      rintro row _ rfl
      simp [element?_bound])
  obtain ⟨m, -, rfl⟩ := List.mem_map.1 hb
  have hm := hlast.holds
  rw [element?_bound, Option.some.injEq, Element.node.injEq] at hm
  subst hm
  rw [← List.flatMap_def] at hlast
  exact hlast

theorem nodesOf_congr {g g' : Graph} (hnodes : g'.nodes = g.nodes)
    (h : ∀ n, s.Identifies g' v n ↔ s.Identifies g v n) : s.nodesOf g' v = s.nodesOf g v := by
  unfold nodesOf
  rw [hnodes]
  apply List.filter_congr
  intro n hn
  rw [decide_eq_decide]
  have hiff := h n
  unfold Identifies at hiff
  rw [hnodes] at hiff
  exact (and_congr_right_iff.1 hiff) hn

theorem assigned_nodup (hnodup : s.properties.keys.Nodup) : s.assigned.keys.Nodup :=
  (List.filter_sublist.map _).nodup hnodup

theorem id_not_assigned : idKey ∉ s.assigned.keys := by
  intro hmem
  obtain ⟨entry, hentry, hkey⟩ := List.mem_map.1 hmem
  have hne := (List.mem_filter.1 hentry).2
  rw [hkey] at hne
  simp at hne

/-- What the assignments to the merged nodes of a batch do to a store. -/
structure Fills (s : NodeSchema) (cx : Context) (batch : List Json) (st st' : Store) : Prop where
  nodes : st'.graph.nodes = st.graph.nodes
  links : st'.graph.links = st.graph.links
  ends  : ∀ l, st'.graph.ends l = st.graph.ends l
  link  : ∀ l, st'.graph.prop (.link l) = st.graph.prop (.link l)
  labels : ∀ n, s.Reported cx batch st.graph n →
    st'.graph.labels n = st.graph.labels n ∪ s.extraLabels.toFinset
  last  : ∀ {n row key r},
    IsLast (fun row => s.Identifies st.graph (s.idOf cx.params row) n) batch row →
      (key, r) ∈ s.assigned → st'.graph.prop (.node n) key = r.value cx.params row.member
  rest  : ∀ n {key}, key ∉ s.assigned.keys →
    st'.graph.prop (.node n) key = st.graph.prop (.node n) key
  others : ∀ n, ¬ s.Reported cx batch st.graph n → st'.graph.node n = st.graph.node n
  written : ∀ e ∈ st'.written, e ∈ st.written ∨
    ∃ n, e = .node n ∧ s.Reported cx batch st.graph n

/-- The assignments of properties and labels to the nodes that the merges have
    left in the rows.  They leave the rows. -/
theorem fills_of_assigns (hnodup : s.properties.keys.Nodup) {q p p' : State}
    (hrows : q.rows = s.spread cx.params q.store.graph batch)
    (hset : Assigns cx "i" s.assigned q.rows q.store p.rows p.store)
    (hlabels : clausesExec cx
      (if s.extraLabels.isEmpty then [] else [.set [.labels "i" s.extraLabels]]) p p') :
    s.Fills cx batch q.store p'.store ∧ p'.rows = q.rows := by
  have hsets := hset.sets
  have hnodes : ∀ b ∈ p.rows, ∃ n, b "i" = some (.element (.node n)) := by
    rw [hset.rows, hrows]
    intro b hb
    obtain ⟨row, -, n, -, rfl⟩ := mem_spread.1 hb
    exact ⟨n, by simp [bound]⟩
  obtain ⟨hkept, hnamed⟩ := labels_batch hnodes hlabels
  rw [hset.rows] at hkept hnamed
  have hbound {e : Element} : BoundIn "i" q.rows e ↔
      ∃ n, e = .node n ∧ s.Reported cx batch q.store.graph n := by
    rw [hrows]
    exact boundIn_spread
  have hunbound {n : Nat} (hn : ¬ s.Reported cx batch q.store.graph n) :
      ¬ BoundIn "i" q.rows (.node n) := by
    intro hb
    obtain ⟨_, heq, hm⟩ := hbound.1 hb
    cases heq
    exact hn hm
  refine ⟨?_, hkept⟩
  constructor
  · exact hnamed.nodes.trans hsets.nodes
  · exact hnamed.links.trans hsets.links
  · intro l
    rw [hnamed.ends]
    unfold Graph.ends
    rw [hsets.type, hsets.source, hsets.target]
  · intro l
    rw [hnamed.prop, hsets.prop_eq]
    intro hb
    obtain ⟨_, heq, -⟩ := hbound.1 hb
    cases heq
  · intro n hn
    rw [hnamed.added n (hbound.2 ⟨n, rfl, hn⟩), hsets.labels]
  · intro n row key r hlast hr
    rw [hnamed.prop]
    refine hset.last (assigned_nodup hnodup) hr (hrows ▸ last_spread hlast) ?_
    simp [bound, unbound, rowAlias]
  · intro n key hkey
    rw [hnamed.prop]
    exact (hsets.prop (.node n) key).resolve_right fun hset => hkey hset.2
  · intro n hn
    unfold Graph.node
    rw [hnamed.kept n (hunbound hn), hsets.labels, hnamed.prop, hsets.prop_eq (hunbound hn)]
  · intro e he
    rcases hnamed.written e he with he | he
    · exact (hset.written e he).imp_right hbound.1
    · exact .inr (hbound.1 he)

namespace Fills

/-- Neither the label nor the id of a node is assigned to. -/
theorem identifies_iff (h : s.Fills cx batch st st') :
    s.Identifies st'.graph v n ↔ s.Identifies st.graph v n := by
  have hprop : (st'.graph.node n).props idKey = (st.graph.node n).props idKey :=
    h.rest n id_not_assigned
  by_cases hn : s.Reported cx batch st.graph n
  · have hlabel : s.label ∈ st.graph.labels n := by
      obtain ⟨row, -, hreports⟩ := hn
      exact hreports.2.label
    have hlabel' : s.label ∈ st'.graph.labels n := by
      rw [h.labels n hn]
      exact Finset.mem_union_left _ hlabel
    constructor
    · intro hv
      exact ⟨h.nodes ▸ hv.1, hlabel, hprop ▸ hv.2.id⟩
    · intro hv
      exact ⟨h.nodes ▸ hv.1, hlabel', hprop.symm ▸ hv.2.id⟩
  · unfold Identifies
    rw [h.nodes, h.others n hn]

theorem reported_iff (h : s.Fills cx batch st st') :
    s.Reported cx batch st'.graph n ↔ s.Reported cx batch st.graph n := by
  unfold Reported
  simp only [h.identifies_iff]

theorem spread_eq (h : s.Fills cx batch st st') :
    s.spread cx.params st'.graph batch = s.spread cx.params st.graph batch := by
  unfold spread
  congr 1
  funext row
  rw [nodesOf_congr h.nodes fun n => h.identifies_iff]

end Fills

namespace Enrols

/-- A node that no row reports is as it was before the merges. -/
theorem node_eq_of_unreported (h : s.Enrols cx batch st st')
    (hn : ¬ s.Reported cx batch st'.graph n) : st'.graph.node n = st.graph.node n := by
  apply h.old
  -- a new node is reported
  intro hmem
  by_contra hnew
  obtain ⟨row, hfirst, -⟩ := h.new n hmem hnew
  exact hn ⟨row, hfirst.mem, hfirst.holds⟩

theorem labels_eq (h : s.Enrols cx batch st st') (hn : n ∈ st'.graph.nodes) :
    st'.graph.labels n = if n ∈ st.graph.nodes then st.graph.labels n else {s.label} := by
  by_cases hold : n ∈ st.graph.nodes
  · rw [if_pos hold]
    exact Graph.labels_of_node_eq (h.node_eq hold)
  · rw [if_neg hold]
    obtain ⟨_, -, hdata, -⟩ := h.new n hn hold
    exact congrArg NodeData.labels hdata

/-- Apart from its id, a new node has the time only. -/
theorem prop_eq (h : s.Enrols cx batch st st') (hn : n ∈ st'.graph.nodes) {key : String}
    (hkey : key ≠ idKey) :
    st'.graph.prop (.node n) key = st.graph.merged cx.now (.node n) key := by
  by_cases hold : n ∈ st.graph.nodes
  · rw [Graph.merged_old (by simpa using hold)]
    rw [Graph.prop_of_node_eq (h.node_eq hold)]
  · rw [Graph.merged_new (by simpa using hold)]
    obtain ⟨row, -, hdata, -⟩ := h.new n hn hold
    have hprops : st'.graph.prop (.node n) key = (s.newNode cx row).props key :=
      congrFun (congrArg NodeData.props hdata) key
    simpa only [newNode, idProps, hkey, if_false] using hprops

/-- The merges of a batch and then the assignments populate the graph. -/
theorem populates (h : s.Enrols cx batch st st₁) (hf : s.Fills cx batch st₁ st') :
    s.Populates cx batch st st' := by
  constructor
  · rw [hf.nodes]
    exact h.nodes
  · exact hf.links.trans h.links
  · intro l
    exact (hf.ends l).trans (h.ends l)
  · intro l
    exact (hf.link l).trans (h.link l)
  · intro row hrow
    obtain ⟨n, hn⟩ := h.found row hrow
    exact ⟨n, hf.identifies_iff.2 hn⟩
  · intro n hn
    refine ⟨?_, fun v => hf.identifies_iff.trans (h.identifies_iff hn)⟩
    rw [hf.rest n id_not_assigned, Graph.prop_of_node_eq (h.node_eq hn)]
  · intro n hn hnew
    obtain ⟨row, hfirst, hdata, hall⟩ := h.new n (hf.nodes ▸ hn) hnew
    refine ⟨row, (IsFirst.congr fun row _ => hf.identifies_iff).2 hfirst, ?_,
      fun m => hf.identifies_iff.trans (hall m)⟩
    rw [hf.rest n id_not_assigned]
    exact congrFun (congrArg NodeData.props hdata) idKey
  · intro n hn
    obtain ⟨row, -, hrow⟩ := hf.reported_iff.1 hn
    rw [hf.labels n (hf.reported_iff.1 hn), h.labels_eq hrow.1]
  · intro n row key r hlast hr
    exact hf.last ((IsLast.congr fun row _ => hf.identifies_iff).1 hlast) hr
  · intro n key hn hne hkey
    obtain ⟨row, -, hrow⟩ := hf.reported_iff.1 hn
    rw [hf.rest n hkey, h.prop_eq hrow.1 hne]
  · intro n hn
    have hn₁ := mt hf.reported_iff.2 hn
    rw [hf.others n hn₁, h.node_eq_of_unreported hn₁]
  · intro e he
    simp only [hf.reported_iff]
    rcases hf.written e he with he | he
    · exact h.written e he
    · exact .inr he

end Enrols

/-- The first clauses of an ingestion merge the nodes of a batch and then assign
    to them.  They leave the rows of the batch with the nodes of their ids. -/
theorem populates (hr : s.properties.get? idKey = some r) (hnodup : s.properties.keys.Nodup)
    (hbatch : cx.params.value rowsParam = .array batch) {p : State}
    (h : clausesExec cx
      ([unwindRows, .merge { start := s.pattern } [setFirstSeen "i"],
        .set (setFields "i" s.assigned)]
        ++ (if s.extraLabels.isEmpty then [] else [.set [.labels "i" s.extraLabels]]))
      { store := st, rows := [Binding.empty] } p) :
    s.Populates cx batch st p.store ∧ p.rows = s.spread cx.params p.store.graph batch := by
  obtain ⟨p₂, ⟨p₁, hunwind, q, hmerge, p₂', hset, rfl⟩, hlabels⟩ := clausesExec_append.1 h
  subst hunwind
  simp only [Clause.Exec, Expr.cell, hbatch, Cell.json, unwound, List.flatMap_cons,
    List.flatMap_nil, List.append_nil] at hmerge
  obtain ⟨henrols, hrows⟩ := merges_batch hr hmerge
  have hassigns : Assigns cx "i" s.assigned q.rows q.store p₂.rows p₂.store := hset
  obtain ⟨hfills, hkept⟩ := fills_of_assigns hnodup hrows hassigns hlabels
  refine ⟨henrols.populates hfills, ?_⟩
  rw [hkept, hrows, hfills.spread_eq]

end NodeSchema

end GraphSync
