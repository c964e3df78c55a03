import GraphSync.Proofs.Graph.Clause
import GraphSync.Proofs.Graph.Endpoint

/-! # Graphs that grow

    Whoever only merges and assigns takes nothing away.  `Graph.Extends` is
    what a graph keeps then, and what has been written to it:

    * Nodes and links stay, nodes with the labels and the identity they had,
      and links with their ends.
    * All that is not as it was is what some `N` says of nodes, and some `L`
      says of links.

    Extensions add up (`Graph.Extends.trans`).  `Graph.SameNodes` is for graphs
    that differ in their links at most, and `Graph.Sets` is the frame of an
    assignment. -/

namespace GraphSync

/-! ## Nodes and links by themselves -/

/-- What a graph says of a node. -/
structure NodeData where
  labels : Finset String
  props  : String → Json

/-- What a graph says of a link. -/
structure LinkData where
  type   : String
  source : Nat
  target : Nat
  props  : String → Json

/-- The link joins `n`, which owns it, to `m`. -/
def LinkData.Joins (x : LinkData) (type : String) (d : Direction) (n m : Nat) : Prop :=
  x.type = type ∧
    match d with
    | .outward => x.source = n ∧ x.target = m
    | .inward => x.source = m ∧ x.target = n

namespace Graph

def node (g : Graph) (n : Nat) : NodeData where
  labels := g.labels n
  props := g.prop (.node n)

def link (g : Graph) (l : Nat) : LinkData where
  type := g.type l
  source := g.source l
  target := g.target l
  props := g.prop (.link l)

theorem labels_of_node_eq {g g' : Graph} {n m : Nat} (h : g'.node m = g.node n) :
    g'.labels m = g.labels n :=
  congrArg NodeData.labels h

theorem prop_of_node_eq {g g' : Graph} {n m : Nat} (h : g'.node m = g.node n) :
    g'.prop (.node m) = g.prop (.node n) :=
  congrArg NodeData.props h

theorem joins_iff_link {g : Graph} {l : Nat} {type : String} {d : Direction} {n m : Nat} :
    g.Joins l type d n m ↔ l ∈ g.links ∧ (g.link l).Joins type d n m := Iff.rfl

end Graph

/-- In one direction a link joins one pair of nodes. -/
theorem LinkData.Joins.unique {x : LinkData} {type type' : String} {d : Direction} {n n' m m' : Nat}
    (h : x.Joins type d n m) (h' : x.Joins type' d n' m') : type = type' ∧ n = n' ∧ m = m' := by
  obtain ⟨rfl, hends⟩ := h
  obtain ⟨rfl, hends'⟩ := h'
  cases d with
  | outward =>
    obtain ⟨rfl, rfl⟩ := hends
    exact ⟨rfl, hends'.1, hends'.2⟩
  | inward =>
    obtain ⟨rfl, rfl⟩ := hends
    exact ⟨rfl, hends'.2, hends'.1⟩

/-- In two directions a link joins the same two nodes, the other way round. -/
theorem LinkData.Joins.reversed {x : LinkData} {type type' : String} {d d' : Direction}
    {n n' m m' : Nat} (h : x.Joins type d n m) (h' : x.Joins type' d' n' m') (hd : d ≠ d') :
    n = m' ∧ m = n' := by
  obtain ⟨-, hends⟩ := h
  obtain ⟨-, hends'⟩ := h'
  cases d <;> cases d'
  · exact absurd rfl hd
  · exact ⟨hends.2.symm.trans hends'.2, hends.1.symm.trans hends'.1⟩
  · exact ⟨hends.1.symm.trans hends'.1, hends.2.symm.trans hends'.2⟩
  · exact absurd rfl hd

/-- A link joins nodes of the graph. -/
theorem Graph.joins_mem {g : Graph} {l : Nat} {type : String} {d : Direction} {n m : Nat}
    (h : g.Joins l type d n m) : n ∈ g.nodes ∧ m ∈ g.nodes := by
  obtain ⟨hl, -, hends⟩ := h
  have hmem := g.ends_mem l hl
  cases d with
  | outward => exact ⟨hends.1 ▸ hmem.1, hends.2 ▸ hmem.2⟩
  | inward => exact ⟨hends.2 ▸ hmem.2, hends.1 ▸ hmem.1⟩

/-- A link that has not changed joins what it joined. -/
theorem Graph.joins_of_link_eq {g g' : Graph} {l : Nat} (hl : l ∈ g.links)
    (hsame : g'.link l = g.link l) {type : String} {d : Direction} {n m : Nat}
    (h : g'.Joins l type d n m) : g.Joins l type d n m := by
  refine ⟨hl, ?_⟩
  show (g.link l).Joins type d n m
  rw [← hsame]
  exact h.2

/-- A link is left if neither it nor one of its nodes is removed. -/
theorem Graph.joins_without {g : Graph} {dead : List Element} {l : Nat} {type : String}
    {d : Direction} {n m : Nat} (h : g.Joins l type d n m) (hl : .link l ∉ dead)
    (hn : .node n ∉ dead) (hm : .node m ∉ dead) : (g.without dead).Joins l type d n m := by
  obtain ⟨hmem, htype, hends⟩ := h
  refine ⟨Graph.mem_links_without.2 ⟨hmem, hl, ?_⟩, htype, hends⟩
  cases d with
  | outward => exact ⟨hends.1.symm ▸ hn, hends.2.symm ▸ hm⟩
  | inward => exact ⟨hends.1.symm ▸ hm, hends.2.symm ▸ hn⟩

/-- An endpoint looks at the labels and the properties of a node only. -/
theorem Endpoint.selects_congr {cx : Context} {field : String → Json} {g g' : Graph} {e : Endpoint}
    {n : Nat} (h : g'.node n = g.node n) : e.Selects cx field g' n ↔ e.Selects cx field g n := by
  have hlabels := Graph.labels_of_node_eq h
  have hprops := Graph.prop_of_node_eq h
  constructor
  · rintro ⟨hlabel, hfields⟩
    exact ⟨hlabels ▸ hlabel, hprops ▸ hfields⟩
  · rintro ⟨hlabel, hfields⟩
    exact ⟨hlabels.symm ▸ hlabel, hprops.symm ▸ hfields⟩

theorem Endpoint.selected_congr {g g' : Graph} (hnodes : g'.nodes = g.nodes)
    (hnode : ∀ n ∈ g.nodes, g'.node n = g.node n) (cx : Context) (field : String → Json)
    (e : Endpoint) : e.selected cx field g' = e.selected cx field g := by
  unfold selected
  rw [hnodes]
  apply List.filter_congr
  intro n hn
  rw [decide_eq_decide]
  exact selects_congr (hnode n hn)

namespace Graph

/-! ## Extensions -/

/-- `g'` is `g` with more elements, with labels of `added` on nodes, and with
    other properties.  What is not as it was is a node of which `N` holds, or a
    link of which `L` holds. -/
structure Extends (added : List String) (N : Nat → NodeData → Prop) (L : Nat → LinkData → Prop)
    (g g' : Graph) : Prop where
  nodes  : g.nodes ⊆ g'.nodes
  links  : g.links ⊆ g'.links
  labels : ∀ n ∈ g.nodes, g.labels n ⊆ g'.labels n
  added  : ∀ n ∈ g'.nodes, ∀ x ∈ g'.labels n, x ∈ added ∨ n ∈ g.nodes ∧ x ∈ g.labels n
  id     : ∀ n ∈ g.nodes, g'.prop (.node n) idKey = g.prop (.node n) idKey
  joins  : ∀ l ∈ g.links, ∀ {type d n m},
    (g.link l).Joins type d n m → (g'.link l).Joins type d n m
  node   : ∀ n ∈ g'.nodes, N n (g'.node n) ∨ n ∈ g.nodes ∧ g'.node n = g.node n
  link   : ∀ l ∈ g'.links, L l (g'.link l) ∨ l ∈ g.links ∧ g'.link l = g.link l

namespace Extends

variable {added : List String} {N N' : Nat → NodeData → Prop} {L L' : Nat → LinkData → Prop}
  {g g' g₁ g₂ g₃ : Graph}

theorem trans (h₁₂ : g₁.Extends added N L g₂) (h₂₃ : g₂.Extends added N L g₃) :
    g₁.Extends added N L g₃ where
  nodes := fun _ hn => h₂₃.nodes (h₁₂.nodes hn)
  links := fun _ hl => h₂₃.links (h₁₂.links hl)
  labels := fun n hn _ hx => h₂₃.labels n (h₁₂.nodes hn) (h₁₂.labels n hn hx)
  added := by
    intro n hn x hx
    rcases h₂₃.added n hn x hx with hx | ⟨hn, hx⟩
    · exact .inl hx
    · exact h₁₂.added n hn x hx
  id := fun n hn => (h₂₃.id n (h₁₂.nodes hn)).trans (h₁₂.id n hn)
  joins := fun l hl _ _ _ _ hj => h₂₃.joins l (h₁₂.links hl) (h₁₂.joins l hl hj)
  node := by
    intro n hn
    rcases h₂₃.node n hn with h | ⟨hn, hsame⟩
    · exact .inl h
    · rw [hsame]
      exact h₁₂.node n hn
  link := by
    intro l hl
    rcases h₂₃.link l hl with h | ⟨hl, hsame⟩
    · exact .inl h
    · rw [hsame]
      exact h₁₂.link l hl

/-- To say less of what has been written. -/
theorem mono {added' : List String} (h : g.Extends added N L g') (hadded : added ⊆ added')
    (hnode : ∀ n x, N n x → N' n x) (hlink : ∀ l x, L l x → L' l x) :
    g.Extends added' N' L' g' :=
  { h with
    added := fun n hn x hx => (h.added n hn x hx).imp_left fun hx => hadded hx
    node := fun n hn => (h.node n hn).imp_left (hnode n _)
    link := fun l hl => (h.link l hl).imp_left (hlink l _) }

theorem joins_of {l : Nat} {type : String} {d : Direction} {n m : Nat}
    (h : g.Extends added N L g') (hj : g.Joins l type d n m) : g'.Joins l type d n m :=
  ⟨h.links hj.1, h.joins l hj.1 hj.2⟩

end Extends

/-! ## The same nodes -/

/-- Two graphs have the same nodes, with the same labels and properties. -/
structure SameNodes (g g' : Graph) : Prop where
  mem  : ∀ n, n ∈ g'.nodes ↔ n ∈ g.nodes
  node : ∀ n ∈ g.nodes, g'.node n = g.node n

theorem SameNodes.refl (g : Graph) : g.SameNodes g := ⟨fun _ => Iff.rfl, fun _ _ => rfl⟩

theorem SameNodes.trans {g₁ g₂ g₃ : Graph} (h₁₂ : g₁.SameNodes g₂) (h₂₃ : g₂.SameNodes g₃) :
    g₁.SameNodes g₃ where
  mem := fun n => (h₂₃.mem n).trans (h₁₂.mem n)
  node := fun n hn => (h₂₃.node n ((h₁₂.mem n).2 hn)).trans (h₁₂.node n hn)

/-- To write no node leaves the nodes as they are. -/
theorem Extends.sameNodes {added : List String} {L : Nat → LinkData → Prop} {g g' : Graph}
    (h : g.Extends added (fun _ _ => False) L g') : g.SameNodes g' where
  mem := fun n => ⟨fun hn => ((h.node n hn).resolve_left not_false).1, fun hn => h.nodes hn⟩
  node := fun n hn => ((h.node n (h.nodes hn)).resolve_left not_false).2

/-- To remove links leaves the nodes as they are. -/
theorem sameNodes_without {g : Graph} {dead : List Element} (h : ∀ n, .node n ∉ dead) :
    g.SameNodes (g.without dead) where
  mem := fun n => by
    rw [mem_nodes_without]
    exact and_iff_left (h n)
  node := fun _ _ => rfl

/-! ## Assignments -/

/-- Some elements may have other values under some keys. -/
structure Sets (E : Element → Prop) (keys : List String) (g g' : Graph) : Prop where
  nodes  : g'.nodes = g.nodes
  links  : g'.links = g.links
  labels : g'.labels = g.labels
  type   : g'.type = g.type
  source : g'.source = g.source
  target : g'.target = g.target
  prop   : ∀ e key, g'.prop e key = g.prop e key ∨ E e ∧ key ∈ keys

namespace Sets

variable {E E' : Element → Prop} {keys : List String} {g g' g₁ g₂ g₃ : Graph}

theorem refl (E : Element → Prop) (keys : List String) (g : Graph) : g.Sets E keys g :=
  ⟨rfl, rfl, rfl, rfl, rfl, rfl, fun _ _ => .inl rfl⟩

theorem trans (h₁₂ : g₁.Sets E keys g₂) (h₂₃ : g₂.Sets E keys g₃) : g₁.Sets E keys g₃ where
  nodes := h₂₃.nodes.trans h₁₂.nodes
  links := h₂₃.links.trans h₁₂.links
  labels := h₂₃.labels.trans h₁₂.labels
  type := h₂₃.type.trans h₁₂.type
  source := h₂₃.source.trans h₁₂.source
  target := h₂₃.target.trans h₁₂.target
  prop := by
    intro e key
    rcases h₂₃.prop e key with h | h
    · rw [h]
      exact h₁₂.prop e key
    · exact .inr h

theorem mono (h : g.Sets E keys g') (hE : ∀ e, E e → E' e) : g.Sets E' keys g' :=
  { h with prop := fun e key => (h.prop e key).imp_right fun hset => ⟨hE e hset.1, hset.2⟩ }

/-- What is not assigned to keeps its properties. -/
theorem prop_eq (h : g.Sets E keys g') {e : Element} (he : ¬ E e) : g'.prop e = g.prop e := by
  funext key
  exact (h.prop e key).resolve_right fun hset => he hset.1

end Sets

theorem setProp_sets (g : Graph) (e : Element) (key : String) (v : Json) :
    g.Sets (fun e' => e = e') [key] (g.setProp e key v) where
  nodes := rfl
  links := rfl
  labels := rfl
  type := rfl
  source := rfl
  target := rfl
  prop := by
    intro e' k
    by_cases h : e' = e ∧ k = key
    · exact .inr ⟨h.1.symm, List.mem_singleton.2 h.2⟩
    · left
      simp only [setProp, h, if_false]

end Graph

end GraphSync
