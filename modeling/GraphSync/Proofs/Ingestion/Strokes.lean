import GraphSync.Proofs.Ingestion.LastWrite
import GraphSync.Proofs.Ingestion.Links

/-! # Strokes

    A row draws the links of a relationship between two nodes in one stroke: it
    merges a link between them, and assigns to all links that it finds there.
    `Draws` is all that a list of strokes does to a store:

    * Nodes stay as they are.  Links are added, one for each ends that a stroke
      has and no link had.
    * A property of a link is what the last stroke assigns that has the ends of
      the link and the key.  Without such a stroke it is what it was.

    `Traces` is the part of this that does not depend on the time of the
    strokes.  Strokes may follow one another (`Draws.trans`), and the same strokes again
    change nothing (`Draws.settled`).  `draws_strokes` is about the two clauses
    that every ingestion of links ends with. -/

namespace GraphSync

open Cypher Plan

/-! ## Strokes -/

/-- One time that a row draws the links of a relationship between two nodes. -/
structure Stroke where
  row   : Json
  rel   : Relationship
  node  : Nat
  other : Nat

namespace Stroke

/-- The ends of the links that a stroke draws. -/
def ends (k : Stroke) : Ends := k.rel.ends k.node k.other

/-- The stroke without its assignments. -/
def bare (k : Stroke) : Stroke := { k with rel := { k.rel with properties := [] } }

/-- The stroke assigns to links with the ends, under the key. -/
def Sets (k : Stroke) (e : Ends) (key : String) : Prop :=
  k.ends = e ∧ key ∈ k.rel.properties.keys

theorem bare_sets (k : Stroke) (e : Ends) (key : String) : ¬ k.bare.Sets e key := by
  rintro ⟨-, hkey⟩
  cases hkey

end Stroke

/-- A property of an element that has been merged, before any assignment: what
    it was, or of a new element the time. -/
def Graph.merged (g : Graph) (now : Int64) (e : Element) (key : String) : Json :=
  if g.has e then g.prop e key else if key = firstSeenKey then .ofInt64 now else .null

theorem Graph.merged_old {g : Graph} {e : Element} (h : g.has e = true) (now : Int64)
    (key : String) : g.merged now e key = g.prop e key :=
  if_pos h

theorem Graph.merged_new {g : Graph} {e : Element} (h : ¬ g.has e = true) (now : Int64)
    (key : String) :
    g.merged now e key = if key = firstSeenKey then .ofInt64 now else .null :=
  if_neg h

/-- What strokes leave of the links of a graph, whatever the times at which they
    were drawn. -/
structure Traces (cx : Context) (ks : List Stroke) (g g' : Graph) : Prop where
  links  : g.links <+: g'.links
  ends   : ∀ l ∈ g.links, g'.ends l = g.ends l
  drawn  : ∀ k ∈ ks, ∃ l ∈ g'.links, g'.ends l = k.ends
  stroke : ∀ l ∈ g'.links, l ∉ g.links → ∃ k ∈ ks, k.ends = g'.ends l
  single : ∀ l ∈ g'.links, l ∉ g.links → ∀ l' ∈ g'.links, g'.ends l' = g'.ends l → l' = l
  last   : ∀ l ∈ g'.links, ∀ {key r k},
    IsLast (fun k => k.Sets (g'.ends l) key) ks k → (key, r) ∈ k.rel.properties →
      g'.prop (.link l) key = r.value cx.params k.row.member
  rest   : ∀ l ∈ g'.links, ∀ {key}, (∀ k ∈ ks, ¬ k.Sets (g'.ends l) key) →
    ∃ now, g'.prop (.link l) key = g.merged now (.link l) key

namespace Traces

variable {cx : Context} {ks ks' : List Stroke} {g g' g₁ g₂ g₃ : Graph}

theorem mem_links (h : Traces cx ks g g') {l : Nat} (hl : l ∈ g.links) : l ∈ g'.links :=
  h.links.subset hl

/-- Where there was a link with the ends there is no new one. -/
theorem mem_of_ends (h : Traces cx ks g g') {l l' : Nat} (hl : l ∈ g.links)
    (hl' : l' ∈ g'.links) (hends : g'.ends l' = g.ends l) : l' ∈ g.links := by
  by_contra hnew
  have hsame : l = l' := by
    apply h.single l' hl' hnew l (h.mem_links hl)
    rw [h.ends l hl, hends]
  exact hnew (hsame ▸ hl)

/-- Strokes and then others are all of them. -/
theorem trans (h₁₂ : Traces cx ks g₁ g₂) (h₂₃ : Traces cx ks' g₂ g₃) :
    Traces cx (ks ++ ks') g₁ g₃ where
  links := h₁₂.links.trans h₂₃.links
  ends := by
    intro l hl
    rw [h₂₃.ends l (h₁₂.mem_links hl)]
    exact h₁₂.ends l hl
  drawn := by
    intro k hk
    rcases List.mem_append.1 hk with hk | hk
    · obtain ⟨l, hl, hends⟩ := h₁₂.drawn k hk
      exact ⟨l, h₂₃.mem_links hl, (h₂₃.ends l hl).trans hends⟩
    · exact h₂₃.drawn k hk
  stroke := by
    intro l hl hnew
    by_cases hl₂ : l ∈ g₂.links
    · obtain ⟨k, hk, hends⟩ := h₁₂.stroke l hl₂ hnew
      exact ⟨k, List.mem_append_left _ hk, hends.trans (h₂₃.ends l hl₂).symm⟩
    · obtain ⟨k, hk, hends⟩ := h₂₃.stroke l hl hl₂
      exact ⟨k, List.mem_append_right _ hk, hends⟩
  single := by
    intro l hl hnew l' hl' hends
    by_cases hl₂ : l ∈ g₂.links
    · rw [h₂₃.ends l hl₂] at hends
      have hl₂' := h₂₃.mem_of_ends hl₂ hl' hends
      rw [h₂₃.ends l' hl₂'] at hends
      exact h₁₂.single l hl₂ hnew l' hl₂' hends
    · exact h₂₃.single l hl hl₂ l' hl' hends
  last := by
    intro l hl key r k hlast hr
    rcases IsLast.append_iff.1 hlast with hlast | ⟨hlast, hnone⟩
    · exact h₂₃.last l hl hlast hr
    · -- the link was there after the earlier strokes, and later ones leave the key
      obtain ⟨l₂, hl₂, hends⟩ := h₁₂.drawn k hlast.mem
      have hmem := h₂₃.mem_of_ends hl₂ hl (hlast.holds.1.symm.trans hends.symm)
      rw [h₂₃.ends l hmem] at hlast
      obtain ⟨now, hrest⟩ := h₂₃.rest l hl hnone
      rw [hrest, Graph.merged_old ((g₂.has_link l).2 hmem)]
      exact h₁₂.last l hmem hlast hr
  rest := by
    intro l hl key hnone
    obtain ⟨hfirst, hlater⟩ := List.forall_mem_append.1 hnone
    obtain ⟨now, hrest⟩ := h₂₃.rest l hl hlater
    by_cases hl₂ : l ∈ g₂.links
    · rw [h₂₃.ends l hl₂] at hfirst
      rw [hrest, Graph.merged_old ((g₂.has_link l).2 hl₂)]
      exact h₁₂.rest l hl₂ hfirst
    · have hl₁ : l ∉ g₁.links := fun h => hl₂ (h₁₂.mem_links h)
      refine ⟨now, ?_⟩
      rw [hrest, Graph.merged_new (by simpa using hl₂), Graph.merged_new (by simpa using hl₁)]

end Traces

/-- What strokes do to a store, one after another. -/
structure Draws (cx : Context) (ks : List Stroke) (s s' : Store) : Prop where
  nodes  : s'.graph.nodes = s.graph.nodes
  labels : s'.graph.labels = s.graph.labels
  node   : ∀ n, s'.graph.prop (.node n) = s.graph.prop (.node n)
  links  : s.graph.links <+: s'.graph.links
  ends   : ∀ l, (l ∈ s'.graph.links → l ∈ s.graph.links) → s'.graph.ends l = s.graph.ends l
  drawn  : ∀ k ∈ ks, ∃ l ∈ s'.graph.links, s'.graph.ends l = k.ends
  stroke : ∀ l ∈ s'.graph.links, l ∉ s.graph.links → ∃ k ∈ ks, k.ends = s'.graph.ends l
  single : ∀ l ∈ s'.graph.links, l ∉ s.graph.links → ∀ l' ∈ s'.graph.links,
    s'.graph.ends l' = s'.graph.ends l → l' = l
  last   : ∀ l ∈ s'.graph.links, ∀ {key r k},
    IsLast (fun k => k.Sets (s'.graph.ends l) key) ks k → (key, r) ∈ k.rel.properties →
      s'.graph.prop (.link l) key = r.value cx.params k.row.member
  rest   : ∀ l ∈ s'.graph.links, ∀ {key}, (∀ k ∈ ks, ¬ k.Sets (s'.graph.ends l) key) →
    s'.graph.prop (.link l) key = s.graph.merged cx.now (.link l) key
  idle   : ∀ l, l ∉ s'.graph.links → s'.graph.prop (.link l) = s.graph.prop (.link l)
  /-- Only links of strokes are written. -/
  written : ∀ e ∈ s'.written, e ∈ s.written ∨
    ∃ l ∈ s'.graph.links, e = .link l ∧ ∃ k ∈ ks, k.ends = s'.graph.ends l

namespace Draws

variable {cx : Context} {ks ks' : List Stroke} {s s' s₁ s₂ s₃ : Store}

theorem refl (cx : Context) (s : Store) : Draws cx [] s s where
  nodes := rfl
  labels := rfl
  node := fun _ => rfl
  links := List.prefix_refl _
  ends := fun _ _ => rfl
  drawn := by simp
  stroke := fun _ hl hnew => absurd hl hnew
  single := fun _ hl hnew => absurd hl hnew
  last := fun _ _ _ _ _ h => absurd h.mem List.not_mem_nil
  rest := fun l hl key _ => (Graph.merged_old ((s.graph.has_link l).2 hl) _ _).symm
  idle := fun _ _ => rfl
  written := fun _ he => .inl he

/-- A link that there was has the ends it had. -/
theorem ends_eq (h : Draws cx ks s s') {l : Nat} (hl : l ∈ s.graph.links) :
    s'.graph.ends l = s.graph.ends l :=
  h.ends l fun _ => hl

theorem traces (h : Draws cx ks s s') : Traces cx ks s.graph s'.graph where
  links := h.links
  ends := fun _ hl => h.ends_eq hl
  drawn := h.drawn
  stroke := h.stroke
  single := h.single
  last := h.last
  rest := fun l hl _ hnone => ⟨cx.now, h.rest l hl hnone⟩

theorem mem_links (h : Draws cx ks s s') {l : Nat} (hl : l ∈ s.graph.links) :
    l ∈ s'.graph.links :=
  h.links.subset hl

theorem mem_of_ends (h : Draws cx ks s s') {l l' : Nat} (hl : l ∈ s.graph.links)
    (hl' : l' ∈ s'.graph.links) (hends : s'.graph.ends l' = s.graph.ends l) :
    l' ∈ s.graph.links :=
  h.traces.mem_of_ends hl hl' hends

/-- Strokes leave nodes as they are. -/
theorem node_eq (h : Draws cx ks s s') (n : Nat) : s'.graph.node n = s.graph.node n := by
  unfold Graph.node
  rw [h.labels, h.node n]

theorem sameNodes (h : Draws cx ks s s') : s.graph.SameNodes s'.graph where
  mem := fun n => by rw [h.nodes]
  node := fun n _ => h.node_eq n

/-- Strokes and then others are all of them. -/
theorem trans (h₁₂ : Draws cx ks s₁ s₂) (h₂₃ : Draws cx ks' s₂ s₃) :
    Draws cx (ks ++ ks') s₁ s₃ where
  nodes := h₂₃.nodes.trans h₁₂.nodes
  labels := h₂₃.labels.trans h₁₂.labels
  node := fun n => (h₂₃.node n).trans (h₁₂.node n)
  links := h₁₂.links.trans h₂₃.links
  ends := by
    intro l hl
    have hl₂ : l ∈ s₃.graph.links → l ∈ s₂.graph.links := fun h => h₁₂.mem_links (hl h)
    rw [h₂₃.ends l hl₂]
    exact h₁₂.ends l fun h => hl (h₂₃.mem_links h)
  drawn := (h₁₂.traces.trans h₂₃.traces).drawn
  stroke := (h₁₂.traces.trans h₂₃.traces).stroke
  single := (h₁₂.traces.trans h₂₃.traces).single
  last := (h₁₂.traces.trans h₂₃.traces).last
  rest := by
    intro l hl key hnone
    obtain ⟨hfirst, hlater⟩ := List.forall_mem_append.1 hnone
    rw [h₂₃.rest l hl hlater]
    by_cases hl₂ : l ∈ s₂.graph.links
    · rw [h₂₃.ends_eq hl₂] at hfirst
      rw [Graph.merged_old ((s₂.graph.has_link l).2 hl₂), h₁₂.rest l hl₂ hfirst]
    · have hl₁ : l ∉ s₁.graph.links := fun h => hl₂ (h₁₂.mem_links h)
      rw [Graph.merged_new (by simpa using hl₂), Graph.merged_new (by simpa using hl₁)]
  idle := by
    intro l hl
    rw [h₂₃.idle l hl]
    exact h₁₂.idle l fun h => hl (h₂₃.mem_links h)
  written := by
    intro e he
    rcases h₂₃.written e he with he | ⟨l, hl, rfl, k, hk, hends⟩
    · rcases h₁₂.written e he with he | ⟨l, hl, rfl, k, hk, hends⟩
      · exact .inl he
      · exact .inr ⟨l, h₂₃.mem_links hl, rfl, k, List.mem_append_left _ hk,
          hends.trans (h₂₃.ends_eq hl).symm⟩
    · exact .inr ⟨l, hl, rfl, k, List.mem_append_right _ hk, hends⟩

end Draws

/-! ## The same graph -/

/-- A graph is what its fields say of the elements and of all numbers. -/
theorem Graph.ext_of {g g' : Graph} (hnodes : g'.nodes = g.nodes) (hlinks : g'.links = g.links)
    (hlabels : ∀ n, g'.labels n = g.labels n) (hends : ∀ l, g'.ends l = g.ends l)
    (hprop : ∀ e key, g'.prop e key = g.prop e key) : g' = g := by
  obtain ⟨nodes, links, labels, type, source, target, prop, _, _, _⟩ := g
  obtain ⟨nodes', links', labels', type', source', target', prop', _, _, _⟩ := g'
  obtain rfl : nodes' = nodes := hnodes
  obtain rfl : links' = links := hlinks
  obtain rfl : labels' = labels := funext hlabels
  obtain rfl : type' = type := funext fun l => congrArg Ends.type (hends l)
  obtain rfl : source' = source := funext fun l => congrArg Ends.source (hends l)
  obtain rfl : target' = target := funext fun l => congrArg Ends.target (hends l)
  obtain rfl : prop' = prop := funext fun e => funext (hprop e)
  rfl

/-- A longer list without new items is the same list. -/
theorem eq_of_no_more {α : Type} {l l' : List α} (h : l <+: l') (hnodup : l'.Nodup)
    (hmem : ∀ a ∈ l', a ∈ l) : l' = l := by
  obtain ⟨more, rfl⟩ := h
  cases more with
  | nil => exact List.append_nil l
  | cons a rest =>
    have ha : a ∈ l := hmem a (List.mem_append_right _ List.mem_cons_self)
    exact absurd List.mem_cons_self (List.disjoint_of_nodup_append hnodup ha)

/-- To filter a longer list is to filter the list, if what is new is left
    out. -/
theorem filter_longer {α : Type} {l l' : List α} {keep : α → Bool} (h : l <+: l')
    (hnodup : l'.Nodup) (hnew : ∀ a ∈ l', a ∉ l → ¬ keep a = true) :
    l'.filter keep = l.filter keep := by
  obtain ⟨more, rfl⟩ := h
  have hnone : more.filter keep = [] := by
    rw [List.filter_eq_nil_iff]
    intro a ha
    exact hnew a (List.mem_append_right _ ha)
      fun hold => List.disjoint_of_nodup_append hnodup hold ha
  rw [List.filter_append, hnone, List.append_nil]

/-- The same strokes again leave the graph as it is, at whatever time. -/
theorem Draws.settled {cx : Context} {ks : List Stroke} {s s₁ s₂ s₃ : Store} {now : Int64}
    (h : Draws cx ks s₁ s₂) (hagain : Draws { cx with now } ks s s₃) (hgraph : s.graph = s₂.graph) :
    s₃.graph = s₂.graph := by
  obtain ⟨g, written⟩ := s
  obtain rfl : g = s₂.graph := hgraph
  have hold (l : Nat) (hl : l ∈ s₃.graph.links) : l ∈ s₂.graph.links := by
    by_contra hnew
    obtain ⟨k, hk, hends⟩ := hagain.stroke l hl hnew
    obtain ⟨l₂, hl₂, hends₂⟩ := h.drawn k hk
    exact hnew (hagain.mem_of_ends hl₂ hl (hends.symm.trans hends₂.symm))
  have hends (l : Nat) : s₃.graph.ends l = s₂.graph.ends l := hagain.ends l (hold l)
  refine Graph.ext_of hagain.nodes (eq_of_no_more hagain.links s₃.graph.links_nodup hold)
    (fun n => by rw [hagain.labels]) hends ?_
  intro e key
  cases e with
  | node n => rw [hagain.node n]
  | link l =>
    by_cases hl : l ∈ s₃.graph.links
    · by_cases hset : ∃ k ∈ ks, k.Sets (s₃.graph.ends l) key
      · -- the last stroke that assigns is the same both times
        obtain ⟨k₀, hk₀, hsets⟩ := hset
        obtain ⟨k, hlast⟩ := IsLast.exists_of_mem
          (P := fun k => k.Sets (s₃.graph.ends l) key) hk₀ hsets
        obtain ⟨⟨key', r⟩, hr, rfl⟩ := List.mem_map.1 hlast.holds.2
        rw [hagain.last l hl hlast hr]
        rw [hends l] at hlast
        exact (h.last l (hold l hl) hlast hr).symm
      · rw [hagain.rest l hl fun k hk hsets => hset ⟨k, hk, hsets⟩,
          Graph.merged_old ((s₂.graph.has_link l).2 (hold l hl))]
    · rw [hagain.idle l hl]

/-! ## Merging the links of strokes -/

namespace Cypher

variable {cx : Context} {left right : String} {rel : Relationship} {k : Stroke} {ks : List Stroke}
  {g : Graph} {b : Binding} {s s' : Store} {block : List Binding}

/-- To record the time on what a variable is bound to always succeeds. -/
theorem applyItems_firstSeen {v : String} {x : Element} (hv : b v = some (.element x)) :
    applyItems cx b [setFirstSeen v] s =
      some { graph := s.graph.setProp x firstSeenKey (.ofInt64 cx.now)
             written := s.written ++ [x] } := by
  have hstorable : (Json.ofInt64 cx.now).isStorable = true := rfl
  simp [applyItems, setFirstSeen, SetItem.apply, hv, Expr.cell, hstorable]

/-- A row for a stroke of the relationship binds what the stroke is about. -/
structure Fits (left right : String) (rel : Relationship) (k : Stroke) (b : Binding) : Prop where
  rel    : k.rel = rel
  joined : b.Joined left right k.node k.other
  row    : b rowAlias = some (.value k.row)

/-- What a merge leaves for a stroke: there are links with its ends, and rows
    for all of them. -/
structure Covers (g : Graph) (k : Stroke) (block : List Binding) : Prop where
  drawn : ∃ l ∈ g.links, g.ends l = k.ends
  bound : ∀ b ∈ block, b rowAlias = some (.value k.row) ∧
    ∃ l ∈ g.links, b "r" = some (.element (.link l)) ∧ g.ends l = k.ends
  all   : ∀ l ∈ g.links, g.ends l = k.ends → ∃ b ∈ block, b "r" = some (.element (.link l))

/-- Later strokes add no links with the ends. -/
theorem Covers.later (h : Covers s.graph k block) (hdraws : Draws cx ks s s') :
    Covers s'.graph k block where
  drawn := by
    obtain ⟨l, hl, hends⟩ := h.drawn
    exact ⟨l, hdraws.mem_links hl, (hdraws.ends_eq hl).trans hends⟩
  bound := by
    intro b hb
    obtain ⟨hrow, l, hl, hr, hends⟩ := h.bound b hb
    exact ⟨hrow, l, hdraws.mem_links hl, hr, (hdraws.ends_eq hl).trans hends⟩
  all := by
    intro l hl hends
    obtain ⟨l₀, hl₀, hends₀⟩ := h.drawn
    have hmem := hdraws.mem_of_ends hl₀ hl (hends.trans hends₀.symm)
    exact h.all l hmem ((hdraws.ends_eq hmem).symm.trans hends)

/-- To add a link, where there is none with its ends, is a stroke that assigns
    nothing. -/
theorem addEnds_draws (cx : Context) {l : Nat} (hnew : l ∉ s.graph.links)
    (hs : k.ends.source ∈ s.graph.nodes) (ht : k.ends.target ∈ s.graph.nodes)
    (hnone : ∀ l ∈ s.graph.links, s.graph.ends l ≠ k.ends) :
    Draws cx [k.bare] s
      { graph := (s.graph.addEnds l k.ends hnew hs ht).setProp (.link l) firstSeenKey
          (.ofInt64 cx.now)
        written := s.written ++ [.link l] ++ [.link l] } := by
  have hmem : l ∈ s.graph.links ++ [l] := List.mem_append_right _ (List.mem_singleton_self l)
  have hself : ((s.graph.addEnds l k.ends hnew hs ht).setProp (.link l) firstSeenKey
      (.ofInt64 cx.now)).ends l = k.ends := Graph.addEnds_ends_self hnew hs ht
  have hother {j : Nat} (hj : j ≠ l) : ((s.graph.addEnds l k.ends hnew hs ht).setProp (.link l)
      firstSeenKey (.ofInt64 cx.now)).ends j = s.graph.ends j :=
    Graph.addEnds_ends_of_ne hnew hs ht hj
  -- a link is the new one, or one of the others
  have hcases {j : Nat} (hj : j ∈ s.graph.links ++ [l]) : j = l ∨ j ∈ s.graph.links ∧ j ≠ l := by
    rcases List.mem_append.1 hj with hj | hj
    · exact .inr ⟨hj, fun heq => hnew (heq ▸ hj)⟩
    · exact .inl (List.mem_singleton.1 hj)
  constructor
  · rfl
  · rfl
  · intro n
    funext key
    simp [Graph.setProp, Graph.addEnds, Graph.addLink]
  · exact List.prefix_append _ _
  · intro j hj
    exact hother fun heq => hnew (heq ▸ hj (heq ▸ hmem))
  · intro k' hk'
    rw [List.mem_singleton.1 hk']
    exact ⟨l, hmem, hself⟩
  · intro j hj hnot
    obtain rfl := (hcases hj).resolve_right fun hold => hnot hold.1
    exact ⟨k.bare, List.mem_singleton_self _, hself.symm⟩
  · intro j hj hnot l' hl' hends
    obtain rfl := (hcases hj).resolve_right fun hold => hnot hold.1
    refine (hcases hl').resolve_right fun hold => hnone l' hold.1 ?_
    rw [← hother hold.2, hends, hself]
  · intro j _ key r k' hlast _
    obtain rfl := List.mem_singleton.1 hlast.mem
    exact absurd hlast.holds (Stroke.bare_sets k _ _)
  · intro j hj key _
    rcases hcases hj with rfl | ⟨hold, hne⟩
    · simp [Graph.merged, hnew, Graph.setProp, Graph.addEnds, Graph.addLink]
    · simp [Graph.merged, hold, hne, Graph.setProp, Graph.addEnds, Graph.addLink]
  · intro j hj
    have hne : j ≠ l := fun heq => hj (heq ▸ hmem)
    funext key
    simp [hne, Graph.setProp, Graph.addEnds, Graph.addLink]
  · intro e he
    simp only [List.append_assoc, List.mem_append, List.mem_singleton, or_self] at he
    rcases he with he | rfl
    · exact .inl he
    · exact .inr ⟨l, hmem, rfl, k.bare, List.mem_singleton_self _, hself.symm⟩

/-- One row of a merge of links. -/
theorem merges_stroke (hapart : Apart left right) (hfits : Fits left right rel k b)
    {out : List Binding} (h : (mergePath left rel right).Merges cx [setFirstSeen "r"] b s out s') :
    Draws cx [k.bare] s s' ∧ Covers s'.graph k out := by
  obtain rfl := hfits.rel
  have hmatch {g : Graph} {b' : Binding} :
      b' ∈ (mergePath left k.rel right).matches cx g b ↔
        ∃ l ∈ g.links, g.ends l = k.ends ∧ b' = b.bind "r" (.element (.link l)) := by
    rw [mem_matches_mergePath hapart hfits.joined]
    simp only [Graph.joins_iff_ends, and_assoc]
    rfl
  have hrow (l : Nat) : (b.bind "r" (.element (.link l))) rowAlias = some (.value k.row) := by
    rw [Binding.bind_of_ne b (by decide), hfits.row]
  rcases h with ⟨hsome, rfl, rfl⟩ | ⟨hnone, b', s₁, hcreates, rfl, hitems⟩
  · -- links were found
    obtain ⟨b', hb'⟩ := List.exists_mem_of_ne_nil _ hsome
    obtain ⟨l, hl, hends, -⟩ := hmatch.1 hb'
    refine ⟨?_, ⟨l, hl, hends⟩, ?_, ?_⟩
    · exact { Draws.refl cx s' with
        drawn := fun k' hk' => ⟨l, hl, by rw [List.mem_singleton.1 hk']; exact hends⟩
        last := fun _ _ _ _ _ hlast _ => by
          obtain rfl := List.mem_singleton.1 hlast.mem
          exact absurd hlast.holds (Stroke.bare_sets k _ _)
        rest := fun l hl key _ => (Draws.refl cx s').rest l hl (by simp)
        stroke := fun _ hl hnew => absurd hl hnew
        written := fun _ he => .inl he }
    · intro b' hb'
      obtain ⟨l, hl, hends, rfl⟩ := hmatch.1 hb'
      exact ⟨hrow l, l, hl, Binding.bind_self _ _ _, hends⟩
    · intro l hl hends
      exact ⟨_, hmatch.2 ⟨l, hl, hends, rfl⟩, Binding.bind_self _ _ _⟩
  · -- a link is made, and the time is recorded on it
    obtain ⟨l, hnew, hs, ht, rfl, rfl⟩ := (creates_mergePath_iff hfits.joined).1 hcreates
    rw [applyItems_firstSeen (Binding.bind_self _ _ _), Option.some.injEq] at hitems
    subst hitems
    have hfree (j : Nat) (hj : j ∈ s.graph.links) : s.graph.ends j ≠ k.ends := by
      intro hends
      have hfound := hmatch.2 ⟨j, hj, hends, rfl⟩
      rw [hnone] at hfound
      cases hfound
    have hdraws := addEnds_draws cx hnew hs ht hfree
    have hmem : l ∈ s.graph.links ++ [l] := List.mem_append_right _ (List.mem_singleton_self l)
    have hself := Graph.addEnds_ends_self hnew hs ht
    refine ⟨hdraws, ⟨l, hmem, hself⟩, ?_, ?_⟩
    · intro b' hb'
      rw [List.mem_singleton.1 hb']
      exact ⟨hrow l, l, hmem, Binding.bind_self _ _ _, hself⟩
    · intro j hj hends
      rw [hdraws.single l hmem hnew j hj (hends.trans hself.symm)]
      exact ⟨_, List.mem_singleton_self _, Binding.bind_self _ _ _⟩

/-- All rows of a merge of links. -/
theorem merges_strokes (hapart : Apart left right) {rows out : List Binding}
    (hrows : List.Forall₂ (Fits left right rel) ks rows)
    (h : EachRow ((mergePath left rel right).Merges cx [setFirstSeen "r"]) rows s out s') :
    Draws cx (ks.map Stroke.bare) s s' ∧ ∃ blocks, out = blocks.flatten ∧
      List.Forall₂ (fun k block => k.rel = rel ∧ Covers s'.graph k block) ks blocks := by
  induction hrows generalizing s out with
  | nil =>
    obtain ⟨rfl, rfl⟩ := h
    exact ⟨Draws.refl cx _, [], rfl, .nil⟩
  | @cons k b ks rows hfits hrows ih =>
    obtain ⟨out₁, s₁, out₂, hfirst, hrest, rfl⟩ := h
    obtain ⟨hdraws, hcovers⟩ := merges_stroke hapart hfits hfirst
    obtain ⟨hlater, blocks, rfl, hblocks⟩ := ih hrest
    exact ⟨hdraws.trans hlater, out₁ :: blocks, rfl,
      .cons ⟨hfits.rel, hcovers.later hlater⟩ hblocks⟩

/-! ## Assigning to the links of strokes -/

/-- Rows that bind the links of strokes, in the order of the strokes. -/
structure Spans (rel : Relationship) (g : Graph) (ks : List Stroke) (rows : List Binding) :
    Prop where
  rel   : ∀ k ∈ ks, k.rel = rel
  bound : ∀ {e}, BoundIn "r" rows e → ∃ l ∈ g.links, e = .link l ∧ ∃ k ∈ ks, k.ends = g.ends l
  /-- The last stroke with the ends of a link leads to the last row that binds
      the link. -/
  last  : ∀ {l k}, l ∈ g.links → IsLast (fun k => k.ends = g.ends l) ks k →
    ∃ b, IsLast (fun b => b.element? "r" = some (.link l)) rows b ∧
      b rowAlias = some (.value k.row)

theorem Covers.element_iff (h : Covers g k block) {l : Nat} (hl : l ∈ g.links) :
    (∃ b ∈ block, b.element? "r" = some (.link l)) ↔ k.ends = g.ends l := by
  constructor
  · rintro ⟨b, hb, he⟩
    obtain ⟨-, l', -, hr, hends⟩ := h.bound b hb
    rw [Binding.eq_of_element? he, Option.some.injEq, Cell.element.injEq] at hr
    cases hr
    exact hends.symm
  · intro hends
    obtain ⟨b, hb, hr⟩ := h.all l hl hends.symm
    exact ⟨b, hb, by simp [Binding.element?, hr, Cell.element?]⟩

/-- The rows that a merge leaves span its strokes. -/
theorem spans_of_covers {blocks : List (List Binding)}
    (h : List.Forall₂ (fun k block => k.rel = rel ∧ Covers g k block) ks blocks) :
    Spans rel g ks blocks.flatten where
  rel := by
    induction h with
    | nil => simp
    | cons hfirst _ ih => exact List.forall_mem_cons.2 ⟨hfirst.1, ih⟩
  bound := by
    rintro e ⟨b, hb, he⟩
    obtain ⟨k, hk, block, ⟨-, hcovers⟩, hb⟩ := IsLast.exists_block h hb
    obtain ⟨-, l, hl, hr, hends⟩ := hcovers.bound b hb
    rw [Binding.eq_of_element? he, Option.some.injEq, Cell.element.injEq] at hr
    exact ⟨l, hl, hr, k, hk, hends.symm⟩
  last := by
    intro l k hl hlast
    obtain ⟨block, ⟨-, hcovers⟩, b, hb, hlast⟩ :=
      hlast.of_blocks h fun k block hblock => hblock.2.element_iff hl
    exact ⟨b, hlast, (hcovers.bound b hb).1⟩

/-- Strokes without assignments, and then the assignments to the links in the
    rows, are the strokes. -/
theorem draws_of_assigns (hnodup : rel.properties.keys.Nodup) {q p : State}
    (hdraws : Draws cx (ks.map Stroke.bare) s q.store)
    (hspans : Spans rel q.store.graph ks q.rows)
    (hset : Assigns cx "r" rel.properties q.rows q.store p.rows p.store) :
    Draws cx ks s p.store := by
  have hsets := hset.sets
  have hlinks := hsets.links
  have hends (l : Nat) : p.store.graph.ends l = q.store.graph.ends l := by
    unfold Graph.ends
    rw [hsets.type, hsets.source, hsets.target]
  constructor
  · exact hsets.nodes.trans hdraws.nodes
  · exact hsets.labels.trans hdraws.labels
  · intro n
    rw [hsets.prop_eq, hdraws.node n]
    intro hn
    obtain ⟨l, -, heq, -⟩ := hspans.bound hn
    cases heq
  · rw [hlinks]
    exact hdraws.links
  · intro l hl
    rw [hends]
    exact hdraws.ends l (hlinks ▸ hl)
  · intro k hk
    obtain ⟨l, hl, hlends⟩ := hdraws.drawn k.bare (List.mem_map_of_mem hk)
    exact ⟨l, hlinks ▸ hl, (hends l).trans hlends⟩
  · intro l hl hnew
    obtain ⟨_, hbare, hlends⟩ := hdraws.stroke l (hlinks ▸ hl) hnew
    obtain ⟨k, hk, rfl⟩ := List.mem_map.1 hbare
    exact ⟨k, hk, hlends.trans (hends l).symm⟩
  · intro l hl hnew l' hl' hsame
    rw [hends, hends] at hsame
    exact hdraws.single l (hlinks ▸ hl) hnew l' (hlinks ▸ hl') hsame
  · intro l hl key r k hlast hr
    -- all strokes assign under the key
    have hkey : key ∈ rel.properties.keys := hspans.rel k hlast.mem ▸ hlast.holds.2
    have hiff : ∀ k' ∈ ks, k'.Sets (p.store.graph.ends l) key ↔
        k'.ends = q.store.graph.ends l := by
      intro k' hk'
      unfold Stroke.Sets
      rw [hends, hspans.rel k' hk', and_iff_left hkey]
    obtain ⟨b, hlast', hrow⟩ := hspans.last (hlinks ▸ hl) ((IsLast.congr hiff).1 hlast)
    exact hset.last hnodup (hspans.rel k hlast.mem ▸ hr) hlast' hrow
  · intro l hl key hnone
    rw [hlinks] at hl
    rcases hsets.prop (.link l) key with hsame | ⟨hassigned, hkey⟩
    · rw [hsame]
      apply hdraws.rest l hl
      intro k hk
      obtain ⟨k, -, rfl⟩ := List.mem_map.1 hk
      exact Stroke.bare_sets k _ _
    · obtain ⟨l', -, heq, k, hk, hkends⟩ := hspans.bound hassigned
      cases heq
      exact absurd ⟨hkends.trans (hends l).symm, hspans.rel k hk ▸ hkey⟩ (hnone k hk)
  · intro l hl
    rw [hsets.prop_eq, hdraws.idle l (hlinks ▸ hl)]
    intro hassigned
    obtain ⟨l', hl', heq, -⟩ := hspans.bound hassigned
    cases heq
    exact hl (hlinks ▸ hl')
  · intro e he
    rw [hlinks]
    simp only [hends]
    rcases hset.written e he with he | he
    · rcases hdraws.written e he with he | ⟨l, hl, heq, _, hbare, hkends⟩
      · exact .inl he
      · obtain ⟨k, hk, rfl⟩ := List.mem_map.1 hbare
        exact .inr ⟨l, hl, heq, k, hk, hkends⟩
    · exact .inr (hspans.bound he)

/-- The two clauses that draw links carry out the strokes that the rows stand
    for. -/
theorem draws_strokes (hapart : Apart left right) (hnodup : rel.properties.keys.Nodup)
    {rows : List Binding} (hrows : List.Forall₂ (Fits left right rel) ks rows) {p : State}
    (h : clausesExec cx [mergeLink left rel right, .set (setFields "r" rel.properties)]
      { store := s, rows } p) : Draws cx ks s p.store := by
  obtain ⟨q, hmerge, p', hset, rfl⟩ := h
  change EachRow ((mergePath left rel right).Merges cx [setFirstSeen "r"]) rows s q.rows q.store
    at hmerge
  obtain ⟨hdraws, blocks, hblocks, hcovers⟩ := merges_strokes hapart hrows hmerge
  have hspans : Spans rel q.store.graph ks q.rows := by
    rw [hblocks]
    exact spans_of_covers hcovers
  exact draws_of_assigns hnodup hdraws hspans hset

end Cypher

/-! ## Strokes of a matchlink -/

/-- Strokes that draw links leave what an endpoint selects. -/
theorem Draws.selected_eq {cx : Context} {ks : List Stroke} {s s' : Store} (h : Draws cx ks s s')
    (cx' : Context) (field : String → Json) (e : Endpoint) :
    e.selected cx' field s'.graph = e.selected cx' field s.graph :=
  Endpoint.selected_congr h.nodes (fun n _ => h.node_eq n) cx' field e

namespace Matchlink

/-- The strokes of a batch: every row joins each source to each target that it
    finds. -/
def strokes (link : Matchlink) (cx : Context) (g : Graph) (batch : List Json) : List Stroke :=
  batch.flatMap fun row =>
    (link.source.selected cx row.member g).flatMap fun n =>
      (link.relationship.target.selected cx row.member g).map fun m =>
        { row, rel := link.relationship, node := n, other := m }

variable {link : Matchlink} {cx : Context} {g : Graph} {batch : List Json}

theorem mem_strokes {k : Stroke} : k ∈ link.strokes cx g batch ↔
    k.rel = link.relationship ∧ k.row ∈ batch ∧ link.Finds cx g k.row k.node k.other := by
  simp only [strokes, List.mem_flatMap, List.mem_map, Endpoint.mem_selected]
  constructor
  · rintro ⟨row, hrow, n, ⟨hn, hsource⟩, m, ⟨hm, htarget⟩, rfl⟩
    exact ⟨rfl, hrow, hn, hsource, hm, htarget⟩
  · intro h
    obtain ⟨row, rel, n, m⟩ := k
    obtain ⟨rfl, hrow, hn, hsource, hm, htarget⟩ := h
    exact ⟨row, hrow, n, ⟨hn, hsource⟩, m, ⟨hm, htarget⟩, rfl⟩

/-- The row that stands for a stroke. -/
theorem fits_strokes : ∀ k ∈ link.strokes cx g batch, Fits "src" "tgt" link.relationship k
    (Matchlink.bound k.row k.node k.other) := by
  intro k hk
  exact ⟨(mem_strokes.1 hk).1, Matchlink.bound_joined k.row k.node k.other,
    by simp [Matchlink.bound, rowAlias]⟩

/-- The two matches of an ingestion leave one row for each stroke. -/
theorem rows_eq_strokes :
    ((batch.map fun row => Binding.empty.bind rowAlias (.value row)).flatMap fun b =>
          Path.found cx g b { start := endpointPattern "src" link.source }
            (endpointConditions "src" link.source)).flatMap (fun b =>
        Path.found cx g b { start := endpointPattern "tgt" link.relationship.target }
          (endpointConditions "tgt" link.relationship.target)) =
      (link.strokes cx g batch).map fun k => Matchlink.bound k.row k.node k.other := by
  have hrow (row : Json) :
      (Binding.empty.bind rowAlias (.value row)).property g rowAlias = row.member :=
    Binding.property_bind_self _ _ _ _
  have hsource (row : Json) (n : Nat) : ((Binding.empty.bind rowAlias (.value row)).bind "src"
      (.element (.node n))).property g rowAlias = row.member :=
    (Binding.property_bind_of_ne _ (by decide) _ _).trans (hrow row)
  have hfirst (row : Json) : Path.found cx g (Binding.empty.bind rowAlias (.value row))
      { start := endpointPattern "src" link.source } (endpointConditions "src" link.source) =
        (link.source.selected cx row.member g).map fun n =>
          (Binding.empty.bind rowAlias (.value row)).bind "src" (.element (.node n)) := by
    rw [Endpoint.found_eq (by rfl) (by decide), hrow]
  have hsecond (row : Json) (n : Nat) : Path.found cx g
      ((Binding.empty.bind rowAlias (.value row)).bind "src" (.element (.node n)))
      { start := endpointPattern "tgt" link.relationship.target }
      (endpointConditions "tgt" link.relationship.target) =
        (link.relationship.target.selected cx row.member g).map fun m =>
          Matchlink.bound row n m := by
    rw [Endpoint.found_eq (by rfl) (by decide), hsource]
    rfl
  simp only [strokes, List.flatMap_map, List.map_flatMap, List.flatMap_assoc, hfirst, hsecond,
    List.map_map, Function.comp_def]

/-- The ingestion of a matchlink carries out the strokes of its batch. -/
theorem ingestion_strokes (hnodup : link.relationship.properties.keys.Nodup)
    (hbatch : cx.params.value rowsParam = .array batch) {s s' : Store} {rows : List Binding}
    (h : link.ingestion.Exec cx s s' rows) :
    Draws cx (link.strokes cx s.graph batch) s s' := by
  obtain ⟨p₁, hunwind, p₂, hsource, p₃, htarget, hlink⟩ := h
  subst hunwind hsource htarget
  simp only [Expr.cell, hbatch, Cell.json, unwound, Bool.false_eq_true, if_false,
    List.flatMap_cons, List.flatMap_nil, List.append_nil, rows_eq_strokes] at hlink
  refine draws_strokes ⟨by decide, by decide, by decide⟩ hnodup ?_ hlink
  rw [List.forall₂_map_right_iff, List.forall₂_same]
  exact fits_strokes

end Matchlink

end GraphSync
