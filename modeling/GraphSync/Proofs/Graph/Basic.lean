import GraphSync.Proofs.Graph.Value
import GraphSync.Schema.Relationship
import Mathlib.Data.Finset.Insert

/-! # Property graphs

    A finite graph has nodes and links.  Nodes carry labels; a link has a
    type and runs from its source to its target; both carry properties.
    Nodes and links are numbered, and a number is used once at a time.

    * `Graph.without` removes elements, and with a node all its links.
    * `Graph.Within` says that a graph is another one less some elements:
      what is left has the labels, ends and properties it had. -/

namespace GraphSync

/-- An element of a graph. -/
inductive Element where
  | node (id : Nat)
  | link (id : Nat)
  deriving DecidableEq

/-- A property graph.  What the last five fields say about numbers that are
    not in use does not matter. -/
structure Graph where
  nodes  : List Nat
  links  : List Nat
  labels : Nat → Finset String
  type   : Nat → String
  source : Nat → Nat
  target : Nat → Nat
  /-- The value of a property, `null` when it is absent. -/
  prop   : Element → String → Json
  nodes_nodup : nodes.Nodup
  links_nodup : links.Nodup
  /-- No link is left without its ends. -/
  ends_mem : ∀ l ∈ links, source l ∈ nodes ∧ target l ∈ nodes

namespace Graph

/-! ## Elements -/

/-- Whether an element is in the graph. -/
def has (g : Graph) : Element → Bool
  | .node n => n ∈ g.nodes
  | .link l => l ∈ g.links

@[simp] theorem has_node (g : Graph) (n : Nat) : g.has (.node n) = true ↔ n ∈ g.nodes := by
  simp [has]

@[simp] theorem has_link (g : Graph) (l : Nat) : g.has (.link l) = true ↔ l ∈ g.links := by
  simp [has]

/-- The number of elements. -/
def size (g : Graph) : Nat := g.nodes.length + g.links.length

/-- Whether a link ends at a node that is among some elements. -/
def touches (g : Graph) (dead : List Element) (l : Nat) : Bool :=
  .node (g.source l) ∈ dead || .node (g.target l) ∈ dead

/-- The link `l` joins `n`, which owns it, to `m`, as a relationship of the
    type draws it in a direction. -/
def Joins (g : Graph) (l : Nat) (type : String) (d : Direction) (n m : Nat) : Prop :=
  l ∈ g.links ∧ g.type l = type ∧
    match d with
    | .outward => g.source l = n ∧ g.target l = m
    | .inward => g.source l = m ∧ g.target l = n

/-! ## Removal -/

/-- The graph without some elements and without the links of removed
    nodes. -/
def without (g : Graph) (dead : List Element) : Graph :=
  { g with
    nodes := g.nodes.filter fun n => .node n ∉ dead
    links := g.links.filter fun l => .link l ∉ dead ∧ g.touches dead l = false
    nodes_nodup := g.nodes_nodup.filter _
    links_nodup := g.links_nodup.filter _
    ends_mem := by
      intro l hl
      simp only [List.mem_filter, decide_eq_true_eq] at hl ⊢
      obtain ⟨hl, _, ht⟩ := hl
      simp only [touches, Bool.or_eq_false_iff, decide_eq_false_iff_not] at ht
      exact ⟨⟨(g.ends_mem l hl).1, ht.1⟩, (g.ends_mem l hl).2, ht.2⟩ }

theorem mem_nodes_without {g : Graph} {dead : List Element} {n : Nat} :
    n ∈ (g.without dead).nodes ↔ n ∈ g.nodes ∧ .node n ∉ dead := by
  simp [without]

theorem mem_links_without {g : Graph} {dead : List Element} {l : Nat} :
    l ∈ (g.without dead).links ↔
      l ∈ g.links ∧ .link l ∉ dead ∧ .node (g.source l) ∉ dead ∧ .node (g.target l) ∉ dead := by
  simp [without, touches]

/-- A removed element is gone. -/
theorem not_has_without {g : Graph} {dead : List Element} {e : Element} (h : e ∈ dead) :
    (g.without dead).has e = false := by
  rw [← Bool.not_eq_true]
  cases e with
  | node n =>
    rw [has_node, mem_nodes_without]
    exact fun hn => hn.2 h
  | link l =>
    rw [has_link, mem_links_without]
    exact fun hl => hl.2.1 h

/-! ## Less some elements -/

/-- `g` is `h` less some elements. -/
structure Within (g h : Graph) : Prop where
  nodes  : g.nodes ⊆ h.nodes
  links  : g.links ⊆ h.links
  labels : g.labels = h.labels
  type   : g.type = h.type
  source : g.source = h.source
  target : g.target = h.target
  prop   : g.prop = h.prop

theorem Within.refl (g : Graph) : g.Within g :=
  ⟨fun _ h => h, fun _ h => h, rfl, rfl, rfl, rfl, rfl⟩

theorem Within.trans {f g h : Graph} (hfg : f.Within g) (hgh : g.Within h) : f.Within h where
  nodes := fun _ hn => hgh.nodes (hfg.nodes hn)
  links := fun _ hl => hgh.links (hfg.links hl)
  labels := hfg.labels.trans hgh.labels
  type := hfg.type.trans hgh.type
  source := hfg.source.trans hgh.source
  target := hfg.target.trans hgh.target
  prop := hfg.prop.trans hgh.prop

theorem without_within (g : Graph) (dead : List Element) : (g.without dead).Within g where
  nodes := fun _ hn => (mem_nodes_without.1 hn).1
  links := fun _ hl => (mem_links_without.1 hl).1
  labels := rfl
  type := rfl
  source := rfl
  target := rfl
  prop := rfl

theorem Within.has {g h : Graph} (hw : g.Within h) {e : Element} (he : g.has e = true) :
    h.has e = true := by
  cases e with
  | node n =>
    rw [has_node] at he ⊢
    exact hw.nodes he
  | link l =>
    rw [has_link] at he ⊢
    exact hw.links he

/-- Links of a part join what they join in the whole. -/
theorem Within.joins {g h : Graph} (hw : g.Within h) {l : Nat} {type : String} {d : Direction}
    {n m : Nat} (hj : g.Joins l type d n m) : h.Joins l type d n m := by
  obtain ⟨hl, ht, he⟩ := hj
  refine ⟨hw.links hl, by rw [← hw.type]; exact ht, ?_⟩
  cases d with
  | outward => rw [← hw.source, ← hw.target]; exact he
  | inward => rw [← hw.source, ← hw.target]; exact he

/-- To remove an element that is there makes a graph smaller. -/
theorem size_without_lt {g : Graph} {dead : List Element} {e : Element} (hd : e ∈ dead)
    (he : g.has e = true) : (g.without dead).size < g.size := by
  have hnodes : (g.without dead).nodes.length ≤ g.nodes.length := List.length_filter_le _ _
  have hlinks : (g.without dead).links.length ≤ g.links.length := List.length_filter_le _ _
  unfold size
  cases e with
  | node n =>
    have hlt : (g.without dead).nodes.length < g.nodes.length :=
      List.length_filter_lt_length_iff_exists.2 ⟨n, by simpa using he, by simpa using hd⟩
    omega
  | link l =>
    have hlt : (g.without dead).links.length < g.links.length :=
      List.length_filter_lt_length_iff_exists.2 ⟨l, by simpa using he, by simp [hd]⟩
    omega

theorem Within.size_le {g h : Graph} (hw : g.Within h) : g.size ≤ h.size := by
  have hnodes := (List.subperm_of_subset g.nodes_nodup hw.nodes).length_le
  have hlinks := (List.subperm_of_subset g.links_nodup hw.links).length_le
  unfold size
  omega

end Graph

end GraphSync
