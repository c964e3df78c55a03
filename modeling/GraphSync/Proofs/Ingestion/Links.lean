import GraphSync.Plan.Ingestion
import GraphSync.Proofs.Graph.Endpoint
import GraphSync.Proofs.Graph.Growth

/-! # Links that an ingestion draws

    An ingestion draws a link for a row that binds two nodes (`Binding.Joined`):
    it merges a path between them, which has a link of a relationship.

    * `mem_matches_mergePath`: what is found are the links between the nodes.
    * `creates_mergePath_iff`: what is made is one more of them.

    The rows of a matchlink are those that find a source and a target
    (`Matchlink.Finds`). -/

namespace GraphSync

open Cypher Plan

/-! ## Rows with two nodes -/

/-- A row that binds the nodes of a link, and no link yet. -/
structure Binding.Joined (b : Binding) (left right : String) (n m : Nat) : Prop where
  left  : b left = some (.element (.node n))
  right : b right = some (.element (.node m))
  free  : b "r" = none

namespace Binding.Joined

variable {b : Binding} {left right : String} {n m : Nat}

/-- To bind the nodes again changes nothing. -/
theorem bind_left (hb : b.Joined left right n m) :
    b.bind left (.element (.node n)) = b := by
  funext v
  by_cases hv : v = left
  · subst hv
    rw [Binding.bind_self, hb.left]
  · exact Binding.bind_of_ne b hv _

theorem bind_right (hb : b.Joined left right n m) (hright : right ≠ "r")
    (c : Cell) : (b.bind "r" c).bind right (.element (.node m)) = b.bind "r" c := by
  funext v
  by_cases hv : v = right
  · subst hv
    rw [Binding.bind_self, Binding.bind_of_ne b hright, hb.right]
  · exact Binding.bind_of_ne _ hv _

end Binding.Joined

/-! ## Ends -/

/-- The type and the ends of a link. -/
structure Ends where
  type   : String
  source : Nat
  target : Nat
  deriving DecidableEq

def Graph.ends (g : Graph) (l : Nat) : Ends where
  type := g.type l
  source := g.source l
  target := g.target l

/-- The ends of a link of the relationship from `n`, which owns it, to `m`. -/
def Relationship.ends (rel : Relationship) (n m : Nat) : Ends :=
  match rel.direction with
  | .outward => { type := rel.label, source := n, target := m }
  | .inward => { type := rel.label, source := m, target := n }

theorem Graph.joins_iff_ends {g : Graph} {l : Nat} {rel : Relationship} {n m : Nat} :
    g.Joins l rel.label rel.direction n m ↔ l ∈ g.links ∧ g.ends l = rel.ends n m := by
  unfold Graph.Joins Graph.ends Relationship.ends
  cases rel.direction <;> simp

/-- A link that has kept its ends joins what it joined. -/
theorem Graph.joins_of_ends_eq {g g' : Graph} {l : Nat} (hends : g'.ends l = g.ends l)
    {type : String} {d : Direction} {n m : Nat} (h : (g.link l).Joins type d n m) :
    (g'.link l).Joins type d n m := by
  obtain ⟨htype, hsource, htarget⟩ := Ends.mk.inj hends
  unfold LinkData.Joins Graph.link at h ⊢
  rwa [htype, hsource, htarget]

theorem Graph.link_eq_of_ends_eq {g g' : Graph} {l : Nat} (hends : g'.ends l = g.ends l)
    (hprop : g'.prop (.link l) = g.prop (.link l)) : g'.link l = g.link l := by
  obtain ⟨htype, hsource, htarget⟩ := Ends.mk.inj hends
  unfold Graph.link
  rw [htype, hsource, htarget, hprop]

/-- The graph with a new link that has the ends. -/
def Graph.addEnds (g : Graph) (l : Nat) (e : Ends) (h : l ∉ g.links) (hs : e.source ∈ g.nodes)
    (ht : e.target ∈ g.nodes) : Graph :=
  g.addLink l e.type e.source e.target h hs ht

theorem Graph.addEnds_ends_self {g : Graph} {l : Nat} {e : Ends} (h : l ∉ g.links)
    (hs : e.source ∈ g.nodes) (ht : e.target ∈ g.nodes) : (g.addEnds l e h hs ht).ends l = e := by
  simp [addEnds, addLink, ends]

theorem Graph.addEnds_ends_of_ne {g : Graph} {l k : Nat} {e : Ends} (h : l ∉ g.links)
    (hs : e.source ∈ g.nodes) (ht : e.target ∈ g.nodes) (hk : k ≠ l) :
    (g.addEnds l e h hs ht).ends k = g.ends k := by
  simp [addEnds, addLink, ends, hk]

namespace Cypher

variable {cx : Context} {v : String} {b : Binding} {s s' : Store}

/-! ## Merging links -/

section Merge

variable {left right : String} {rel : Relationship}

/-- The path that is merged, between two nodes that are bound. -/
def mergePath (left : String) (rel : Relationship) (right : String) : Path where
  start := { var := some left }
  hops := [({ var := some "r", type := rel.label, arrow := arrow rel.direction },
            { var := some right })]

/-- The variables of the two nodes and of the link are different. -/
def Apart (left right : String) : Prop := left ≠ "r" ∧ right ≠ "r" ∧ right ≠ left

/-- What is found for a row are the links between its nodes. -/
theorem mem_matches_mergePath (hapart : Apart left right) {n m : Nat}
    (hb : b.Joined left right n m) {g : Graph} {b' : Binding} :
    b' ∈ (mergePath left rel right).matches cx g b ↔
      ∃ l, g.Joins l rel.label rel.direction n m ∧ b' = b.bind "r" (.element (.link l)) := by
  obtain ⟨hleft, hright, hne⟩ := hapart
  -- the link is not bound when the path comes to it, but both ends are
  have hfree : (some "r").bind (b.bindVar (some left) (.element (.node n))) = none := by
    simp [Ne.symm hleft, hb.free]
  have hbound (l : Nat) : (((b.bindVar (some left) (.element (.node n))).bindVar (some "r")
      (.element (.link l))).bindVar (some right) (.element (.node m))) =
        b.bind "r" (.element (.link l)) := by
    simp only [Binding.bindVar_some, hb.bind_left, hb.bind_right hright]
  constructor
  · intro h
    obtain ⟨n', -, l, hl, hstart, hrel, hend, rfl⟩ := Path.mem_matches_hop.1 h
    obtain rfl : n = n' := by
      simpa [NodePattern.fits, Binding.admits, hb.left, Cell.element?] using hstart
    obtain ⟨htype, hnear⟩ := (RelPattern.fits_arrow_iff hfree).1 hrel
    have hfar : m = (arrow rel.direction).far g l := by
      simpa [NodePattern.fits, Binding.admits, hright, hne, hb.right, Cell.element?] using hend
    refine ⟨l, Graph.joins_iff.2 ⟨hl, htype, hnear, hfar.symm⟩, ?_⟩
    rw [← hbound, ← hfar]
  · intro h
    obtain ⟨l, hjoins, rfl⟩ := h
    obtain ⟨hl, htype, hnear, hfar⟩ := Graph.joins_iff.1 hjoins
    refine Path.mem_matches_hop.2 ⟨n, hnear ▸ Arrow.near_mem hl _, l, hl, ?_,
      (RelPattern.fits_arrow_iff hfree).2 ⟨htype, hnear⟩, ?_, ?_⟩
    · simp [NodePattern.fits, Binding.admits, hb.left, Cell.element?]
    · simp [NodePattern.fits, Binding.admits, hright, hne, hb.right, Cell.element?, hfar]
    · rw [hfar, hbound]

/-- To make a link for a row is to add one between its nodes. -/
theorem creates_mergePath_iff {n m : Nat} (hb : b.Joined left right n m) {b' : Binding} :
    (mergePath left rel right).Creates cx b s b' s' ↔
      ∃ l h hs ht, b' = b.bind "r" (.element (.link l)) ∧
        s' = { graph := s.graph.addEnds l (rel.ends n m) h hs ht
               written := s.written ++ [.link l] } := by
  -- the nodes are bound, so they are taken as they are
  have hnode {v : String} {k k' : Nat} {s₁ : Store} {b₁ : Binding}
      (hv : b v = some (.element (.node k))) :
      NodePattern.Creates cx b s { var := some v } k' b₁ s₁ ↔
        k' = k ∧ k ∈ s.graph.nodes ∧ b₁ = b ∧ s₁ = s := by
    unfold NodePattern.Creates
    simp only [Option.bind_some, hv, Cell.element?, Option.some.injEq, Element.node.injEq,
      true_and]
    constructor
    · rintro ⟨rfl, hk, rfl, rfl⟩
      exact ⟨rfl, hk, rfl, rfl⟩
    · rintro ⟨rfl, hk, rfl, rfl⟩
      exact ⟨rfl, hk, rfl, rfl⟩
  have hends (hn : n ∈ s.graph.nodes) (hm : m ∈ s.graph.nodes) :
      (rel.ends n m).source ∈ s.graph.nodes ∧ (rel.ends n m).target ∈ s.graph.nodes := by
    unfold Relationship.ends
    cases rel.direction with
    | outward => exact ⟨hn, hm⟩
    | inward => exact ⟨hm, hn⟩
  constructor
  · rintro ⟨n', b₁, s₁, hstart, m', b₂, s₂, hother, -, l, h, hn, hm, rfl, rfl⟩
    obtain ⟨rfl, -, rfl, rfl⟩ := (hnode hb.left).1 hstart
    obtain ⟨rfl, -, rfl, rfl⟩ := (hnode hb.right).1 hother
    obtain ⟨hs, ht⟩ := hends hn hm
    refine ⟨l, h, hs, ht, rfl, ?_⟩
    obtain ⟨_, direction, _, _, _⟩ := rel
    cases direction <;> rfl
  · rintro ⟨l, h, hs, ht, rfl, rfl⟩
    have hjoins : (s.graph.addEnds l (rel.ends n m) h hs ht).Joins l rel.label rel.direction n m :=
      Graph.joins_iff_ends.2 ⟨List.mem_append_right _ (List.mem_singleton_self l),
        Graph.addEnds_ends_self h hs ht⟩
    obtain ⟨hn, hm⟩ := Graph.joins_mem hjoins
    refine ⟨n, b, s, (hnode hb.left).2 ⟨rfl, hn, rfl, rfl⟩, m, b, s,
      (hnode hb.right).2 ⟨rfl, hm, rfl, rfl⟩, hb.free, l, h, hn, hm, rfl, ?_⟩
    obtain ⟨_, direction, _, _, _⟩ := rel
    cases direction <;> rfl

end Merge

end Cypher

/-! ## Matchlinks -/

/-- A row finds a source and a target. -/
structure Matchlink.Finds (link : Matchlink) (cx : Context) (g : Graph) (row : Json) (n m : Nat) :
    Prop where
  source_mem : n ∈ g.nodes
  source     : link.source.Selects cx row.member g n
  target_mem : m ∈ g.nodes
  target     : link.relationship.target.Selects cx row.member g m

/-- What a row finds is the same where the nodes are. -/
theorem Matchlink.finds_congr {link : Matchlink} {cx : Context} {g g' : Graph}
    (h : g.SameNodes g') {row : Json} {n m : Nat} :
    link.Finds cx g' row n m ↔ link.Finds cx g row n m := by
  constructor
  · rintro ⟨hn, hsource, hm, htarget⟩
    rw [h.mem] at hn hm
    exact ⟨hn, (Endpoint.selects_congr (h.node n hn)).1 hsource, hm,
      (Endpoint.selects_congr (h.node m hm)).1 htarget⟩
  · rintro ⟨hn, hsource, hm, htarget⟩
    exact ⟨(h.mem n).2 hn, (Endpoint.selects_congr (h.node n hn)).2 hsource, (h.mem m).2 hm,
      (Endpoint.selects_congr (h.node m hm)).2 htarget⟩

/-- What a row finds does not depend on the time. -/
theorem Matchlink.finds_at {link : Matchlink} {cx : Context} (now : Int64) {g : Graph} {row : Json}
    {n m : Nat} : link.Finds { cx with now } g row n m ↔ link.Finds cx g row n m := by
  constructor
  · rintro ⟨hn, ⟨hlabel, hfields⟩, hm, ⟨hlabel', hfields'⟩⟩
    exact ⟨hn, ⟨hlabel, hfields⟩, hm, ⟨hlabel', hfields'⟩⟩
  · rintro ⟨hn, ⟨hlabel, hfields⟩, hm, ⟨hlabel', hfields'⟩⟩
    exact ⟨hn, ⟨hlabel, hfields⟩, hm, ⟨hlabel', hfields'⟩⟩

/-- A row of a batch with the nodes that it finds. -/
def Matchlink.bound (row : Json) (n m : Nat) : Binding :=
  ((Binding.empty.bind rowAlias (.value row)).bind "src" (.element (.node n))).bind "tgt"
    (.element (.node m))

theorem Matchlink.bound_joined (row : Json) (n m : Nat) :
    (Matchlink.bound row n m).Joined "src" "tgt" n m :=
  ⟨by simp [bound], by simp [bound], by simp [bound, rowAlias, Binding.empty]⟩

end GraphSync
