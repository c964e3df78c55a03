import GraphSync.Proofs.Ingestion.Links
import Mathlib.Data.Set.Function

/-! # Graphs that agree

    Two loads that start from one graph may number what they make differently,
    and record different times on it.  Apart from that they may leave the same:

    * `Graph.NodesAgree`: there are as many nodes, with the same labels and
      properties, and those of the graph at the start are where they were.
    * `Graph.LinksAgree`: the same for the links, between the nodes that
      correspond.

    `exists_bijOn` numbers anew: it puts together what stays and what is found
    one by one. -/

namespace GraphSync

/-- The ends of a link when its nodes are numbered anew. -/
def Ends.map (f : Nat → Nat) (e : Ends) : Ends :=
  { e with source := f e.source, target := f e.target }

/-- `g.NodesAgree h h' f`: two graphs that have come from `g` have the same
    nodes, of which `f` gives the numbers.  They may differ in when a node that
    `g` does not have was made. -/
structure Graph.NodesAgree (g h h' : Graph) (f : Nat → Nat) : Prop where
  bij    : Set.BijOn f {n | n ∈ h.nodes} {n | n ∈ h'.nodes}
  fixed  : ∀ n ∈ g.nodes, f n = n
  labels : ∀ n ∈ h.nodes, h'.labels (f n) = h.labels n
  props  : ∀ n ∈ h.nodes, ∀ key, (key = firstSeenKey → n ∈ g.nodes) →
    h'.prop (.node (f n)) key = h.prop (.node n) key

/-- `g.LinksAgree h h' f φ`: two graphs that have come from `g` have the same
    links, of which `φ` gives the numbers, between the nodes that `f` gives.
    They may differ in when a link that `g` does not have was made. -/
structure Graph.LinksAgree (g h h' : Graph) (f φ : Nat → Nat) : Prop where
  bij   : Set.BijOn φ {l | l ∈ h.links} {l | l ∈ h'.links}
  fixed : ∀ l ∈ g.links, φ l = l
  ends  : ∀ l ∈ h.links, h'.ends (φ l) = (h.ends l).map f
  props : ∀ l ∈ h.links, ∀ key, (key = firstSeenKey → l ∈ g.links) →
    h'.prop (.link (φ l)) key = h.prop (.link l) key

/-- Graphs that have kept their nodes as they were have the same. -/
theorem Graph.nodesAgree_of_same {g h h' : Graph} (hnodes : h.nodes = g.nodes)
    (hnodes' : h'.nodes = g.nodes) (hnode : ∀ n, h.node n = g.node n)
    (hnode' : ∀ n, h'.node n = g.node n) : g.NodesAgree h h' id where
  bij := by
    rw [hnodes, hnodes']
    exact Set.bijOn_id _
  fixed := fun _ _ => rfl
  labels := fun n _ => labels_of_node_eq ((hnode' n).trans (hnode n).symm)
  props := by
    intro n _ key _
    rw [id, prop_of_node_eq ((hnode' n).trans (hnode n).symm)]

/-- Two lists with a common part correspond, if what else there is in them
    does. -/
theorem exists_bijOn {old l l' : List Nat} (hl : old ⊆ l) (hl' : old ⊆ l')
    {K : Nat → Nat → Prop} (left : ∀ a ∈ l, a ∉ old → ∃ b ∈ l', b ∉ old ∧ K a b)
    (right : ∀ b ∈ l', b ∉ old → ∃ a ∈ l, a ∉ old ∧ K a b)
    (inj : ∀ a ∈ l, a ∉ old → ∀ a' ∈ l, a' ∉ old → ∀ b, K a b → K a' b → a = a')
    (unique : ∀ b ∈ l', b ∉ old → ∀ b' ∈ l', b' ∉ old → ∀ a, K a b → K a b' → b = b') :
    ∃ f : Nat → Nat, Set.BijOn f {a | a ∈ l} {b | b ∈ l'} ∧ (∀ a ∈ old, f a = a) ∧
      ∀ a ∈ l, a ∉ old → f a ∉ old ∧ K a (f a) := by
  have hchoice (a : Nat) : ∃ b, (a ∈ old → b = a) ∧
      (a ∈ l → a ∉ old → b ∈ l' ∧ b ∉ old ∧ K a b) := by
    by_cases hold : a ∈ old
    · exact ⟨a, fun _ => rfl, fun _ hnew => absurd hold hnew⟩
    · by_cases ha : a ∈ l
      · obtain ⟨b, hb, hnew, hK⟩ := left a ha hold
        exact ⟨b, fun h => absurd h hold, fun _ _ => ⟨hb, hnew, hK⟩⟩
      · exact ⟨a, fun _ => rfl, fun h => absurd h ha⟩
  choose f hfixed hnew using hchoice
  -- what is old stays old, and what is new stays new
  have hmem (a : Nat) (ha : a ∈ l) : f a ∈ old ↔ a ∈ old := by
    by_cases hold : a ∈ old
    · rw [hfixed a hold]
    · exact ⟨fun h => absurd h (hnew a ha hold).2.1, fun h => absurd h hold⟩
  refine ⟨f, ⟨?_, ?_, ?_⟩, hfixed, fun a ha hold => (hnew a ha hold).2⟩
  · intro a ha
    by_cases hold : a ∈ old
    · rw [hfixed a hold]
      exact hl' hold
    · exact (hnew a ha hold).1
  · intro a ha a' ha' heq
    by_cases hold : a ∈ old
    · have hold' : a' ∈ old := by
        rw [← hmem a' ha', ← heq, hmem a ha]
        exact hold
      rw [hfixed a hold, hfixed a' hold'] at heq
      exact heq
    · have hold' : a' ∉ old := by
        rw [← hmem a' ha', ← heq, hmem a ha]
        exact hold
      exact inj a ha hold a' ha' hold' (f a) (hnew a ha hold).2.2
        (heq ▸ (hnew a' ha' hold').2.2)
  · intro b hb
    by_cases hold : b ∈ old
    · exact ⟨b, hl hold, hfixed b hold⟩
    · obtain ⟨a, ha, hold', hK⟩ := right b hb hold
      obtain ⟨hfa, hfold, hfK⟩ := hnew a ha hold'
      exact ⟨a, ha, unique (f a) hfa hfold b hb hold a hfK hK⟩

end GraphSync
