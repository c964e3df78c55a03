import GraphSync.Proofs.Batching.Nodes

/-! # Links of several batches

    Links are drawn by strokes.  Where the nodes of two graphs agree, and the
    strokes that drew their links are the same but for the numbers of the nodes,
    the links agree as well (`Redrawn.exists_linksAgree`).

    * For a node schema that is so when its relationships do not look at the
      times that loads record (`NodeSchema.exists_linksAgree`).
    * The strokes of a matchlink are even the same, for it makes no nodes
      (`Matchlink.exists_linksAgree`).

    The strokes of one ingestion are those of its batch in the graph that it
    leaves (`NodeSchema.ingestion_traces`, `Matchlink.ingestion_traces`). -/

namespace GraphSync

open Cypher Plan

/-! ## Numbering anew -/

namespace Ends

variable {nodes : List Nat} {f : Nat → Nat} {e e' : Ends}

/-- Both ends are among some nodes. -/
def In (e : Ends) (nodes : List Nat) : Prop := e.source ∈ nodes ∧ e.target ∈ nodes

theorem map_injOn (hf : Set.InjOn f {n | n ∈ nodes}) (he : e.In nodes) (he' : e'.In nodes)
    (h : e.map f = e'.map f) : e = e' := by
  obtain ⟨type, source, target⟩ := e
  obtain ⟨type', source', target'⟩ := e'
  simp only [map, mk.injEq] at h
  obtain ⟨htype, hsource, htarget⟩ := h
  rw [mk.injEq]
  exact ⟨htype, hf he.1 he'.1 hsource, hf he.2 he'.2 htarget⟩

/-- Between nodes that keep their numbers nothing changes. -/
theorem map_eq_self (hf : ∀ n ∈ nodes, f n = n) (he : e.In nodes) : e.map f = e := by
  unfold map
  rw [hf _ he.1, hf _ he.2]

end Ends

theorem Graph.ends_in {g : Graph} {l : Nat} (hl : l ∈ g.links) : (g.ends l).In g.nodes :=
  g.ends_mem l hl

namespace Stroke

variable {f : Nat → Nat} {k : Stroke}

/-- The stroke between the nodes that correspond. -/
def map (f : Nat → Nat) (k : Stroke) : Stroke := { k with node := f k.node, other := f k.other }

theorem ends_map (f : Nat → Nat) (k : Stroke) : (k.map f).ends = k.ends.map f := by
  unfold ends Relationship.ends map Ends.map
  cases k.rel.direction <;> rfl

theorem ends_in {nodes : List Nat} (hnode : k.node ∈ nodes) (hother : k.other ∈ nodes) :
    k.ends.In nodes := by
  unfold ends Relationship.ends
  cases k.rel.direction with
  | outward => exact ⟨hnode, hother⟩
  | inward => exact ⟨hother, hnode⟩

/-- `Renumbered f block block'`: the blocks hold strokes of one row and one
    relationship, between nodes that correspond, in whatever order. -/
structure Renumbered (f : Nat → Nat) (block block' : List Stroke) : Prop where
  mem : ∀ k', k' ∈ block' ↔ ∃ k ∈ block, k.map f = k'
  one : ∀ k ∈ block, ∀ k' ∈ block, k'.row = k.row ∧ k'.rel = k.rel

/-- Blocks that are renumbered one by one hold strokes that correspond. -/
theorem mem_flatten_renumbered {blocks blocks' : List (List Stroke)}
    (h : List.Forall₂ (Renumbered f) blocks blocks') {k' : Stroke} :
    k' ∈ blocks'.flatten ↔ ∃ k ∈ blocks.flatten, k.map f = k' := by
  induction h with
  | nil => simp
  | @cons block block' rest rest' hblock hrest ih =>
    simp only [List.flatten_cons, List.mem_append, hblock.mem, ih, or_and_right, exists_or]

/-- And the last ones to write to a place are of the same row and the same
    relationship. -/
theorem last_renumbered {blocks blocks' : List (List Stroke)}
    (h : List.Forall₂ (Renumbered f) blocks blocks') {P Q : Stroke → Prop}
    (hP : ∀ k ∈ blocks.flatten, Q (k.map f) ↔ P k) (hlast : IsLast P blocks.flatten k) :
    ∃ k', IsLast Q blocks'.flatten k' ∧ k'.row = k.row ∧ k'.rel = k.rel := by
  induction h with
  | nil => exact absurd hlast.mem List.not_mem_nil
  | @cons block block' rest rest' hblock hrest ih =>
    obtain ⟨hPblock, hPrest⟩ := List.forall_mem_append.1 hP
    rcases IsLast.append_iff.1 hlast with hlast | ⟨hlast, hnone⟩
    · obtain ⟨k', hlast', hsame⟩ := ih hPrest hlast
      exact ⟨k', IsLast.append_iff.2 (.inl hlast'), hsame⟩
    · -- the block has a last one too, which may be for another node
      have hmem : k.map f ∈ block' := (hblock.mem _).2 ⟨k, hlast.mem, rfl⟩
      obtain ⟨k', hlast'⟩ := IsLast.exists_of_mem hmem ((hPblock k hlast.mem).2 hlast.holds)
      obtain ⟨k₀, hk₀, rfl⟩ := (hblock.mem k').1 hlast'.mem
      refine ⟨k₀.map f, IsLast.append_iff.2 (.inr ⟨hlast', ?_⟩), hblock.one k hlast.mem k₀ hk₀⟩
      intro later hlater hPlater
      obtain ⟨k₁, hk₁, rfl⟩ := (mem_flatten_renumbered hrest).1 hlater
      exact hnone k₁ hk₁ ((hPrest k₁ hk₁).1 hPlater)

/-- Blocks are the same when every node keeps its number. -/
theorem renumbered_singletons (ks : List Stroke) :
    List.Forall₂ (Renumbered id) (ks.map fun k => [k]) (ks.map fun k => [k]) := by
  rw [List.forall₂_map_left_iff, List.forall₂_map_right_iff, List.forall₂_same]
  intro k _
  constructor
  · intro k'
    constructor
    · intro hk'
      exact ⟨k, List.mem_singleton_self k, (List.mem_singleton.1 hk').symm⟩
    · intro h
      obtain ⟨k₀, hk₀, hsame⟩ := h
      rw [← hsame, List.mem_singleton.1 hk₀]
      exact List.mem_singleton_self k
  · intro k₁ hk₁ k₂ hk₂
    rw [List.mem_singleton.1 hk₁, List.mem_singleton.1 hk₂]
    exact ⟨rfl, rfl⟩

end Stroke

/-! ## Strokes in two graphs -/

/-- `Redrawn cx g h h' f`: strokes that are the same but for the numbers of the
    nodes have drawn the links of two graphs that have come from `g`. -/
structure Redrawn (cx : Context) (g h h' : Graph) (f : Nat → Nat)
    (blocks blocks' : List (List Stroke)) : Prop where
  nodes  : g.NodesAgree h h' f
  paired : List.Forall₂ (Stroke.Renumbered f) blocks blocks'
  inside : ∀ k ∈ blocks.flatten, k.ends.In h.nodes
  left   : Traces cx blocks.flatten g h
  right  : Traces cx blocks'.flatten g h'

namespace Redrawn

variable {cx : Context} {g h h' : Graph} {f : Nat → Nat} {blocks blocks' : List (List Stroke)}
  {l l' : Nat} {key : String}

/-- Ends that correspond are of the same link when they are the same. -/
theorem ends_inj (hd : Redrawn cx g h h' f blocks blocks') {e e' : Ends} (he : e.In h.nodes)
    (he' : e'.In h.nodes) (heq : e.map f = e'.map f) : e = e' :=
  Ends.map_injOn hd.nodes.bij.injOn he he' heq

/-- A link that there was is between the nodes that it was between. -/
theorem ends_old (hd : Redrawn cx g h h' f blocks blocks') (hl : l ∈ g.links) :
    h'.ends l = (h.ends l).map f := by
  rw [hd.left.ends l hl, hd.right.ends l hl]
  exact (Ends.map_eq_self hd.nodes.fixed (Graph.ends_in hl)).symm

/-- A new link has one that corresponds, and that is new as well. -/
theorem exists_right (hd : Redrawn cx g h h' f blocks blocks') (hl : l ∈ h.links)
    (hnew : l ∉ g.links) :
    ∃ l' ∈ h'.links, l' ∉ g.links ∧ h'.ends l' = (h.ends l).map f := by
  obtain ⟨k, hk, hends⟩ := hd.left.stroke l hl hnew
  obtain ⟨l', hl', hends'⟩ := hd.right.drawn (k.map f)
    ((Stroke.mem_flatten_renumbered hd.paired).2 ⟨k, hk, rfl⟩)
  rw [k.ends_map, hends] at hends'
  refine ⟨l', hl', ?_, hends'⟩
  intro hold
  -- otherwise there would have been a link with these ends
  rw [hd.ends_old hold] at hends'
  have hsame := hd.ends_inj (Graph.ends_in (hd.left.mem_links hold)) (Graph.ends_in hl) hends'
  exact hnew (hd.left.single l hl hnew l' (hd.left.mem_links hold) hsame ▸ hold)

theorem exists_left (hd : Redrawn cx g h h' f blocks blocks') (hl' : l' ∈ h'.links)
    (hnew : l' ∉ g.links) :
    ∃ l ∈ h.links, l ∉ g.links ∧ h'.ends l' = (h.ends l).map f := by
  obtain ⟨k', hk', hends'⟩ := hd.right.stroke l' hl' hnew
  obtain ⟨k, hk, rfl⟩ := (Stroke.mem_flatten_renumbered hd.paired).1 hk'
  obtain ⟨l, hl, hends⟩ := hd.left.drawn k hk
  rw [k.ends_map, ← hends] at hends'
  refine ⟨l, hl, ?_, hends'.symm⟩
  intro hold
  -- otherwise the link itself would have been there
  rw [← hd.ends_old hold] at hends'
  exact hnew (hd.right.single l' hl' hnew l (hd.right.mem_links hold) hends' ▸ hold)

/-- A stroke writes to a place just when the one that corresponds does. -/
theorem sets_map_iff (hd : Redrawn cx g h h' f blocks blocks') (hl : l ∈ h.links) {k : Stroke}
    (hk : k ∈ blocks.flatten) : (k.map f).Sets ((h.ends l).map f) key ↔ k.Sets (h.ends l) key := by
  unfold Stroke.Sets
  rw [k.ends_map]
  refine and_congr_left fun _ => ?_
  constructor
  · exact hd.ends_inj (hd.inside k hk) (Graph.ends_in hl)
  · exact congrArg _

/-- Links that correspond have the same properties. -/
theorem prop_eq (hd : Redrawn cx g h h' f blocks blocks') (hl : l ∈ h.links) (hl' : l' ∈ h'.links)
    (hends : h'.ends l' = (h.ends l).map f) (hnew : l ∉ g.links → l' ∉ g.links)
    (hold : l ∈ g.links → l' = l) (htime : key = firstSeenKey → l ∈ g.links) :
    h'.prop (.link l') key = h.prop (.link l) key := by
  by_cases hset : ∃ k ∈ blocks.flatten, k.Sets (h.ends l) key
  · -- the last strokes that write are of the same row
    obtain ⟨_, hk₀, hsets⟩ := hset
    obtain ⟨k, hlast⟩ := IsLast.exists_of_mem (P := fun k => k.Sets (h.ends l) key) hk₀ hsets
    obtain ⟨k', hlast', hrow, hrel⟩ := Stroke.last_renumbered hd.paired
      (Q := fun k => k.Sets (h'.ends l') key)
      (fun k hk => by rw [hends]; exact hd.sets_map_iff hl hk) hlast
    obtain ⟨⟨_, r⟩, hr, rfl⟩ := List.mem_map.1 hlast.holds.2
    rw [hd.left.last l hl hlast hr, hd.right.last l' hl' hlast' (hrel ▸ hr), hrow]
  · have hnone : ∀ k ∈ blocks.flatten, ¬ k.Sets (h.ends l) key :=
      fun k hk hsets => hset ⟨k, hk, hsets⟩
    have hnone' : ∀ k' ∈ blocks'.flatten, ¬ k'.Sets (h'.ends l') key := by
      intro k' hk'
      obtain ⟨k, hk, rfl⟩ := (Stroke.mem_flatten_renumbered hd.paired).1 hk'
      rw [hends, hd.sets_map_iff hl hk]
      exact hnone k hk
    -- so the link has what it had, or nothing but the time
    obtain ⟨now, hrest⟩ := hd.left.rest l hl hnone
    obtain ⟨now', hrest'⟩ := hd.right.rest l' hl' hnone'
    rw [hrest, hrest']
    by_cases hmem : l ∈ g.links
    · rw [hold hmem, Graph.merged_old (by simpa using hmem), Graph.merged_old (by simpa using hmem)]
    · rw [Graph.merged_new (by simpa using hnew hmem), Graph.merged_new (by simpa using hmem),
        if_neg (mt htime hmem), if_neg (mt htime hmem)]

/-- The links of the two graphs agree. -/
theorem exists_linksAgree (hd : Redrawn cx g h h' f blocks blocks') :
    ∃ φ, g.LinksAgree h h' f φ := by
  obtain ⟨φ, hbij, hfixed, hnew⟩ := exists_bijOn
    (K := fun l l' => h'.ends l' = (h.ends l).map f) hd.left.links.subset hd.right.links.subset
    (fun l => hd.exists_right) (fun l' => hd.exists_left)
    (fun l hl hlnew l₁ hl₁ _ l' hK hK₁ =>
      (hd.left.single l hl hlnew l₁ hl₁ (hd.ends_inj (Graph.ends_in hl₁) (Graph.ends_in hl)
        (hK₁.symm.trans hK))).symm)
    (fun l' hl' hlnew l₁ hl₁ _ l hK hK₁ =>
      (hd.right.single l' hl' hlnew l₁ hl₁ (hK₁.trans hK.symm)).symm)
  have hends : ∀ l ∈ h.links, h'.ends (φ l) = (h.ends l).map f := by
    intro l hl
    by_cases hold : l ∈ g.links
    · rw [hfixed l hold]
      exact hd.ends_old hold
    · exact (hnew l hl hold).2
  refine ⟨φ, hbij, hfixed, hends, ?_⟩
  intro l hl key htime
  exact hd.prop_eq hl (hbij.mapsTo hl) (hends l hl) (fun hold => (hnew l hl hold).1) (hfixed l)
    htime

end Redrawn

/-! ## Node schemas -/

/-- An endpoint that does not look at the times that loads record selects nodes
    that correspond. -/
theorem Endpoint.mem_selected_of_agree {e : Endpoint} {g h h' : Graph} {f : Nat → Nat}
    (hf : g.NodesAgree h h' f) (htime : ∀ entry ∈ e.matcher, entry.1 ≠ firstSeenKey)
    (cx : Context) (field : String → Json) {n' : Nat} :
    n' ∈ e.selected cx field h' ↔ ∃ n ∈ e.selected cx field h, f n = n' := by
  have hselects {n : Nat} (hn : n ∈ h.nodes) :
      e.Selects cx field h' (f n) ↔ e.Selects cx field h n := by
    have hprop (entry : String × Reference) (hentry : entry ∈ e.matcher) :
        h'.prop (.node (f n)) entry.1 = h.prop (.node n) entry.1 :=
      hf.props n hn _ fun heq => absurd heq (htime entry hentry)
    constructor
    · intro hn'
      refine ⟨hf.labels n hn ▸ hn'.label, ?_⟩
      intro entry hentry
      rw [← hprop entry hentry]
      exact hn'.fields entry hentry
    · intro hn'
      refine ⟨(hf.labels n hn).symm ▸ hn'.label, ?_⟩
      intro entry hentry
      rw [hprop entry hentry]
      exact hn'.fields entry hentry
  simp only [mem_selected]
  constructor
  · intro hn'
    obtain ⟨n, hn, rfl⟩ := hf.bij.surjOn hn'.1
    exact ⟨n, ⟨hn, (hselects hn).1 hn'.2⟩, rfl⟩
  · intro h
    obtain ⟨n, ⟨hn, hsel⟩, rfl⟩ := h
    exact ⟨hf.bij.mapsTo hn, (hselects hn).2 hsel⟩

namespace NodeSchema

variable {s : NodeSchema} {cx : Context} {rows : List Json} {g g₁ g₂ : Graph}

theorem strokes_append (s : NodeSchema) (cx : Context) (g : Graph) (rows rows' : List Json) :
    s.strokes cx g (rows ++ rows') = s.strokes cx g rows ++ s.strokes cx g rows' :=
  List.flatMap_append

/-- Each row with each node of its id and each relationship. -/
def places (s : NodeSchema) (cx : Context) (g : Graph) (rows : List Json) :
    List (Json × Nat × Relationship) :=
  rows.flatMap fun row =>
    (s.nodesOf g (s.idOf cx.params row)).flatMap fun n =>
      s.relationships.map fun rel => (row, n, rel)

/-- The strokes of rows, with those of one relationship together. -/
theorem strokes_eq_flatten (s : NodeSchema) (cx : Context) (g : Graph) (rows : List Json) :
    s.strokes cx g rows =
      ((s.places cx g rows).map fun p => relStrokes cx g p.1 p.2.1 p.2.2).flatten := by
  simp only [strokes, places, ← List.flatMap_def, List.flatMap_assoc, List.flatMap_map]
  rfl

theorem places_eq {f : Nat → Nat} (hf : s.Renames g g₁ g₂ f) (h₁ : s.Loaded cx rows g g₁)
    (h₂ : s.Loaded cx rows g g₂) :
    s.places cx g₂ rows = (s.places cx g₁ rows).map fun p => (p.1, f p.2.1, p.2.2) := by
  unfold places
  rw [List.map_flatMap, List.flatMap_def, List.flatMap_def]
  congr 1
  apply List.map_congr_left
  intro row hrow
  rw [hf.nodesOf_eq h₁ h₂ hrow]
  simp only [List.flatMap_map, List.map_flatMap, List.map_map, Function.comp_def]

/-- The links of a node schema agree where the nodes do, if its relationships do
    not look at the times that loads record. -/
theorem exists_linksAgree {f : Nat → Nat} (hf : s.Renames g g₁ g₂ f)
    (h₁ : s.Loaded cx rows g g₁) (h₂ : s.Loaded cx rows g g₂)
    (htime : ∀ rel ∈ s.relationships, ∀ entry ∈ rel.target.matcher, entry.1 ≠ firstSeenKey)
    (hleft : Traces cx (s.strokes cx g₁ rows) g g₁)
    (hright : Traces cx (s.strokes cx g₂ rows) g g₂) : ∃ φ, g.LinksAgree g₁ g₂ f φ := by
  have hnodes := hf.nodesAgree h₁ h₂
  -- each row, node and relationship has its strokes on both sides
  rw [strokes_eq_flatten] at hleft hright
  apply Redrawn.exists_linksAgree ⟨hnodes, ?_, ?_, hleft, hright⟩
  · rw [places_eq hf h₁ h₂, List.map_map, List.forall₂_map_left_iff, List.forall₂_map_right_iff,
      List.forall₂_same]
    intro p hp
    obtain ⟨row, n, rel⟩ := p
    have hrel : rel ∈ s.relationships := by
      simp only [places, List.mem_flatMap, List.mem_map, Prod.mk.injEq] at hp
      obtain ⟨_, -, _, -, rel', hrel, -, -, rfl⟩ := hp
      exact hrel
    have hselected {m' : Nat} : m' ∈ rel.target.selected cx row.member g₂ ↔
        ∃ m ∈ rel.target.selected cx row.member g₁, f m = m' :=
      Endpoint.mem_selected_of_agree hnodes (htime rel hrel) cx row.member
    constructor
    · intro k'
      simp only [relStrokes, List.mem_map, Function.comp_def, hselected, exists_exists_and_eq_and]
      rfl
    · intro k hk k' hk'
      obtain ⟨_, -, rfl⟩ := List.mem_map.1 hk
      obtain ⟨_, -, rfl⟩ := List.mem_map.1 hk'
      exact ⟨rfl, rfl⟩
  · intro k hk
    rw [← strokes_eq_flatten] at hk
    obtain ⟨-, hid, -, hother, -⟩ := mem_strokes.1 hk
    exact Stroke.ends_in hid.1 hother

end NodeSchema

/-! ## Matchlinks -/

/-- The links of a matchlink agree where it finds the same. -/
theorem Matchlink.exists_linksAgree {link : Matchlink} {cx : Context} {rows : List Json}
    {g g₁ g₂ : Graph} (hnodes : g.NodesAgree g₁ g₂ id) (hsame : g₁.nodes = g.nodes)
    (hleft : Traces cx (link.strokes cx g rows) g g₁)
    (hright : Traces cx (link.strokes cx g rows) g g₂) : ∃ φ, g.LinksAgree g₁ g₂ id φ := by
  have hflatten : ((link.strokes cx g rows).map fun k => [k]).flatten = link.strokes cx g rows := by
    rw [← List.flatMap_def, List.flatMap_singleton']
  rw [← hflatten] at hleft hright
  apply Redrawn.exists_linksAgree ⟨hnodes, Stroke.renumbered_singletons _, ?_, hleft, hright⟩
  rw [hflatten, hsame]
  intro k hk
  obtain ⟨-, -, hfinds⟩ := mem_strokes.1 hk
  exact Stroke.ends_in hfinds.source_mem hfinds.target_mem

/-! ## One ingestion -/

/-- Strokes do not see the rows among the parameters, if their references do
    not. -/
theorem Traces.of_sending {cx : Context} {batch : List Json} {now : Int64} {ks : List Stroke}
    {g g' : Graph} (h : Traces (cx.sending batch now) ks g g')
    (hfree : ∀ k ∈ ks, rowsParam ∉ parameterNames k.rel.properties.references) :
    Traces cx ks g g' :=
  { h with
    last := by
      intro l hl key r k hlast hr
      rw [h.last l hl hlast hr]
      exact Reference.value_sending (hfree k hlast.mem) (List.mem_map_of_mem hr) cx batch now _ }

/-- Links stay as they are while nodes are merged. -/
theorem Traces.of_populates {s : NodeSchema} {cx cx' : Context} {batch : List Json}
    {ks : List Stroke} {st st₁ : Store} {g : Graph} (hpop : s.Populates cx' batch st st₁)
    (h : Traces cx ks st₁.graph g) : Traces cx ks st.graph g := by
  have hmerged (now : Int64) (l : Nat) (key : String) :
      st₁.graph.merged now (.link l) key = st.graph.merged now (.link l) key := by
    unfold Graph.merged Graph.has
    rw [hpop.links, hpop.link]
  obtain ⟨hlinks, hends, hdrawn, hstroke, hsingle, hlast, hrest⟩ := h
  rw [hpop.links] at hlinks hends hstroke hsingle
  refine ⟨hlinks, fun l hl => (hends l hl).trans (hpop.ends l), hdrawn, hstroke, hsingle, hlast, ?_⟩
  intro l hl key hnone
  obtain ⟨now, hprop⟩ := hrest l hl hnone
  exact ⟨now, hprop.trans (hmerged now l key)⟩

namespace NodeSchema

variable {s : NodeSchema} {cx : Context} {batch : List Json} {st st' : Store} {now : Int64}

/-- The references of a relationship do not see the rows. -/
theorem free_relationship (hfree : rowsParam ∉ parameterNames (Schema.node s).references)
    {rel : Relationship} (hrel : rel ∈ s.relationships) :
    rowsParam ∉ parameterNames rel.references := by
  intro hname
  exact hfree (mem_parameterNames_append.2 (.inr (mem_parameterNames_flatMap.2 ⟨rel, hrel, hname⟩)))

theorem strokes_sending (hs : s.Built)
    (hfree : rowsParam ∉ parameterNames (Schema.node s).references) (cx : Context)
    (batch : List Json) (now : Int64) (g : Graph) (rows : List Json) :
    s.strokes (cx.sending batch now) g rows = s.strokes cx g rows := by
  have hrow (row : Json) : rowStrokes (cx.sending batch now) g s.relationships row =
      rowStrokes cx g s.relationships row := by
    funext n
    apply List.flatMap_congr
    intro rel hrel
    have hmatcher : rowsParam ∉ parameterNames rel.target.matcher.references :=
      fun hname => free_relationship hfree hrel (mem_parameterNames_append.2 (.inl hname))
    unfold relStrokes
    rw [Endpoint.selected_sending hmatcher]
  unfold strokes
  simp only [idOf_sending hs hfree, hrow]

/-- One ingestion draws the links of its batch, as the nodes are then. -/
theorem ingestion_traces (hs : s.Built)
    (hfree : rowsParam ∉ parameterNames (Schema.node s).references)
    {out : List Binding} (h : s.ingestion.Exec (cx.sending batch now) st st' out) :
    Traces cx (s.strokes cx st'.graph batch) st.graph st'.graph := by
  obtain ⟨st₁, hpop, hdraws⟩ := ingestion_outcome hs (cx.value_sending_rows batch now) h
  rw [← strokes_eq hdraws, strokes_sending hs hfree] at hdraws
  apply Traces.of_populates hpop (hdraws.traces.of_sending _)
  intro k hk hname
  exact free_relationship hfree (mem_strokes.1 hk).2.2.1 (mem_parameterNames_append.2 (.inr hname))

end NodeSchema

namespace Matchlink

variable {link : Matchlink} {cx : Context} {batch : List Json} {st st' : Store} {now : Int64}

theorem strokes_sending (hfree : rowsParam ∉ parameterNames (Schema.matchlink link).references)
    (cx : Context) (batch : List Json) (now : Int64) (g : Graph) (rows : List Json) :
    link.strokes (cx.sending batch now) g rows = link.strokes cx g rows := by
  have hsource : rowsParam ∉ parameterNames link.source.matcher.references :=
    fun hname => hfree (mem_parameterNames_append.2 (.inl hname))
  have htarget : rowsParam ∉ parameterNames link.relationship.target.matcher.references :=
    fun hname => hfree (mem_parameterNames_append.2 (.inr (mem_parameterNames_append.2
      (.inl hname))))
  unfold strokes
  simp only [Endpoint.selected_sending hsource, Endpoint.selected_sending htarget]

theorem strokes_append (link : Matchlink) (cx : Context) (g : Graph) (rows rows' : List Json) :
    link.strokes cx g (rows ++ rows') = link.strokes cx g rows ++ link.strokes cx g rows' :=
  List.flatMap_append

/-- Strokes depend on the nodes only. -/
theorem strokes_congr {g g' : Graph} (hnodes : g'.nodes = g.nodes)
    (hnode : ∀ n, g'.node n = g.node n) (rows : List Json) :
    link.strokes cx g' rows = link.strokes cx g rows := by
  unfold strokes
  simp only [Endpoint.selected_congr hnodes fun n _ => hnode n]

/-- One ingestion leaves the nodes and draws the links of its batch. -/
theorem ingestion_traces (hlink : link.Built)
    (hfree : rowsParam ∉ parameterNames (Schema.matchlink link).references)
    {out : List Binding} (h : link.ingestion.Exec (cx.sending batch now) st st' out) :
    st'.graph.nodes = st.graph.nodes ∧ (∀ n, st'.graph.node n = st.graph.node n) ∧
      Traces cx (link.strokes cx st.graph batch) st.graph st'.graph := by
  have hdraws := ingestion_strokes hlink.relationship.recorded.nodup
    (cx.value_sending_rows batch now) h
  rw [strokes_sending hfree] at hdraws
  refine ⟨hdraws.nodes, hdraws.node_eq, hdraws.traces.of_sending ?_⟩
  intro k hk hname
  rw [(mem_strokes.1 hk).1] at hname
  exact hfree (mem_parameterNames_append.2 (.inr (mem_parameterNames_append.2 (.inr hname))))

end Matchlink

end GraphSync
