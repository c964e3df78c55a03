import GraphSync.Proofs.Cleanup.Targets

/-! # Targets that are matched once

    A cleanup statement deletes what its rows bind, and counts the rows.  An
    element that stands in two rows is counted twice.

    * `Path.found_eq_map`: a path of one hop is found once at each link, so a
      statement that deletes these links matches none of them twice.
    * `Schema.OneOwnerLink`: a statement that goes by way of the owner matches
      a node as often as it has links to owners, and there is only one.
    * `Schema.nodup_targets`: then no statement of a cleanup matches an element
      twice. -/

namespace GraphSync

open Cypher Plan

/-! ## Paths of one hop -/

section hop

variable (cx : Context) (g : Graph) (b : Binding) (left right : NodePattern) (rel : RelPattern)
  (conditions : List Condition)

/-- The binding that a path of one hop leaves when it is found at a link from
    the node `n`. -/
def Cypher.hopBinding (n l : Nat) : Binding :=
  ((b.bindVar left.var (.element (.node n))).bindVar rel.var (.element (.link l))).bindVar right.var
    (.element (.node (rel.arrow.far g l)))

/-- A link from the node `n`, and the node after it, fit a hop. -/
def Cypher.hopFits (n l : Nat) : Bool :=
  let b₁ := b.bindVar left.var (.element (.node n))
  rel.fits g b₁ n l &&
    (right.fits cx g (b₁.bindVar rel.var (.element (.link l))) (rel.arrow.far g l) &&
      conditions.all fun c => c.holds cx g (hopBinding g b left right rel n l))

/-- The links at which a path of one hop is found, in the order in which they
    are tried. -/
def Cypher.hopLinks : List Nat :=
  (g.nodes.filter fun n => left.fits cx g b n).flatMap fun n =>
    g.links.filter fun l => hopFits cx g b left right rel conditions n l

variable {cx g b left right rel conditions}

theorem Cypher.near_of_hopFits {n l : Nat}
    (h : hopFits cx g b left right rel conditions n l = true) : rel.arrow.near g l = n := by
  simp only [hopFits, RelPattern.fits, Bool.and_eq_true, beq_iff_eq] at h
  exact h.1.2

theorem Cypher.mem_hopLinks {l : Nat} :
    l ∈ hopLinks cx g b left right rel conditions ↔
      l ∈ g.links ∧ left.fits cx g b (rel.arrow.near g l) = true ∧
        hopFits cx g b left right rel conditions (rel.arrow.near g l) l = true := by
  simp only [hopLinks, List.mem_flatMap, List.mem_filter]
  constructor
  · intro h
    obtain ⟨n, ⟨-, hleft⟩, hl, hfits⟩ := h
    obtain rfl := near_of_hopFits hfits
    exact ⟨hl, hleft, hfits⟩
  · intro h
    obtain ⟨hl, hleft, hfits⟩ := h
    exact ⟨_, ⟨Arrow.near_mem hl _, hleft⟩, hl, hfits⟩

/-- No link is tried from two nodes. -/
theorem Cypher.nodup_hopLinks : (hopLinks cx g b left right rel conditions).Nodup := by
  unfold hopLinks
  rw [List.nodup_flatMap]
  refine ⟨fun n _ => g.links_nodup.filter _, ?_⟩
  refine (g.nodes_nodup.filter _).imp ?_
  intro n m hne l hn hm
  have hnear := near_of_hopFits (List.mem_filter.1 hn).2
  have hnear' := near_of_hopFits (List.mem_filter.1 hm).2
  exact hne (hnear.symm.trans hnear')

/-- Items that give one result or none. -/
theorem filter_flatMap_ite {α β : Type} (p q : α → Bool) (f : α → β) (c : β → Bool)
    (l : List α) :
    ((l.filter p).flatMap fun a => (if q a then [f a] else []).filter c) =
      (l.filter fun a => p a && (q a && c (f a))).map f := by
  induction l with
  | nil => rfl
  | cons a rest ih =>
    by_cases hp : p a = true
    · rw [List.filter_cons_of_pos hp, List.flatMap_cons, ih]
      by_cases hq : q a = true
      · by_cases hc : c (f a) = true <;> simp [hp, hq, hc]
      · simp [hq]
    · rw [List.filter_cons_of_neg hp, ih]
      simp [hp]

/-- A path of one hop is found once at each link that fits. -/
theorem Cypher.Path.found_eq_map :
    Path.found cx g b { start := left, hops := [(rel, right)] } conditions =
      (hopLinks cx g b left right rel conditions).map fun l =>
        hopBinding g b left right rel (rel.arrow.near g l) l := by
  simp only [Path.found, Path.matches, hopMatches, hopLinks, List.filter_flatMap,
    List.map_flatMap, List.not_mem_nil, not_false_eq_true, decide_true, Bool.true_and]
  refine List.flatMap_congr ?_
  intro n _
  rw [filter_flatMap_ite]
  refine List.map_congr_left ?_
  intro l hl
  have hnear : rel.arrow.near g l = n := near_of_hopFits (List.mem_filter.1 hl).2
  rw [hnear]
  rfl

/-- What a variable is bound to, at each link at which a path of one hop is
    found. -/
theorem Cypher.boundTo_found {var : String} {found : Nat → Element}
    (hvar : ∀ l, Binding.element? (hopBinding g b left right rel (rel.arrow.near g l) l) var =
      some (found l)) :
    boundTo var (Path.found cx g b { start := left, hops := [(rel, right)] } conditions) =
      (hopLinks cx g b left right rel conditions).map found := by
  rw [Path.found_eq_map, boundTo, List.filterMap_map, ← List.filterMap_eq_map]
  congr 1
  funext l
  exact hvar l

theorem Cypher.boundTo_found_link {var : String} (hvar : rel.var = some var)
    (hright : right.var ≠ some var) :
    boundTo var (Path.found cx g b { start := left, hops := [(rel, right)] } conditions) =
      (hopLinks cx g b left right rel conditions).map .link := by
  apply boundTo_found
  intro l
  unfold hopBinding Binding.element?
  rw [hvar]
  cases hv : right.var with
  | none => simp [Cell.element?]
  | some v =>
    have hne : var ≠ v := by
      intro h
      exact hright (by rw [hv, h])
    simp [Binding.bind_of_ne _ hne, Cell.element?]

end hop

variable {cx : Context} {g : Graph}

/-- A sweep that deletes the links at which its path is found matches each of
    them once. -/
theorem Cypher.Sweep.nodup_targets_link {w : Sweep} {left right : NodePattern}
    {rel : RelPattern} {conditions : List Condition}
    (hw : w.reads = [({ start := left, hops := [(rel, right)] }, conditions)])
    (hvar : rel.var = some w.var) (hright : right.var ≠ some w.var) :
    (w.query.targets cx g).Nodup := by
  rw [targets_query, rows_single hw, boundTo_found_link hvar hright]
  apply nodup_hopLinks.map
  intro l l' h
  exact Element.link.inj h

/-! ## Owners -/

/-- No node has two links to owners that the parameters select. -/
def NodeSchema.OneOwnerLink (s : NodeSchema) (cx : Context) (g : Graph) : Prop :=
  ∀ sub, s.scope = .subResource sub → ∀ n l owner l' owner',
    s.OwnedBy sub cx g n l owner → s.OwnedBy sub cx g n l' owner' → l = l'

/-- No node that the cleanup of a schema finds by way of its owner has two
    links to owners.  A matchlink has no owner. -/
def Schema.OneOwnerLink (schema : Schema) (cx : Context) (g : Graph) : Prop :=
  match schema with
  | .node s => s.OneOwnerLink cx g
  | .matchlink _ => True

/-- It stays so while elements are removed. -/
theorem Schema.OneOwnerLink.within {schema : Schema} {h : Graph} (hw : g.Within h)
    (honce : schema.OneOwnerLink cx h) : schema.OneOwnerLink cx g := by
  cases schema with
  | node s =>
    intro sub hscope n l owner l' owner' ho ho'
    exact honce sub hscope n l owner l' owner' (ho.within hw) (ho'.within hw)
  | matchlink link => trivial

namespace NodeSchema

variable {s : NodeSchema} {sub rel : Relationship} {conditions : List Condition} {l l' : Nat}

/-- The links at which the path of ownership is found. -/
def linksFound (s : NodeSchema) (sub : Relationship) (cx : Context) (g : Graph)
    (conditions : List Condition) : List Nat :=
  hopLinks cx g Binding.empty { var := some "n", labels := [s.label] }
    (endpointPattern "owner" sub.target)
    { var := none, type := sub.label, arrow := arrow sub.direction } conditions

/-- They run from nodes to owners. -/
theorem ownedBy_of_mem_linksFound (hl : l ∈ s.linksFound sub cx g conditions)
    (hsub : endpointConditions "owner" sub.target ⊆ conditions) :
    s.OwnedBy sub cx g ((arrow sub.direction).near g l) l ((arrow sub.direction).far g l) := by
  obtain ⟨hlinks, hleft, hfits⟩ := mem_hopLinks.1 hl
  simp only [hopFits, Bool.and_eq_true, List.all_eq_true] at hfits
  obtain ⟨hrel, hright, hall⟩ := hfits
  have hnone : ∀ v ∈ (none : Option String), v ≠ "n" ∧ v ≠ "owner" ∧ v ≠ rowAlias := by simp
  exact (ownedBy_iff_fits hnone hlinks).2
    ⟨hleft, hrel, hright, fun c hc => hall c (hsub hc)⟩

section

variable (honce : s.OneOwnerLink cx g) (hscope : s.scope = .subResource sub)
include honce hscope

/-- With one link to owners for each node, they run from different nodes. -/
theorem OneOwnerLink.near_injOn (hsub : endpointConditions "owner" sub.target ⊆ conditions)
    (hl : l ∈ s.linksFound sub cx g conditions) (hl' : l' ∈ s.linksFound sub cx g conditions)
    (hnear : (arrow sub.direction).near g l = (arrow sub.direction).near g l') : l = l' := by
  have ho := ownedBy_of_mem_linksFound hl hsub
  have ho' := ownedBy_of_mem_linksFound hl' hsub
  rw [← hnear] at ho'
  exact honce sub hscope _ _ _ _ _ ho ho'

theorem OneOwnerLink.nodup_ownedNodes : ((s.ownedNodesSweep sub).query.targets cx g).Nodup := by
  have htargets : (s.ownedNodesSweep sub).query.targets cx g =
      (s.linksFound sub cx g (stale "n" :: endpointConditions "owner" sub.target)).map
        fun l => .node ((arrow sub.direction).near g l) := by
    rw [Sweep.targets_query, Sweep.rows_single rfl]
    exact boundTo_found fun _ => rfl
  rw [htargets]
  apply List.Nodup.map_on _ nodup_hopLinks
  intro l hl l' hl' h
  exact honce.near_injOn hscope (List.subset_cons_self _ _) hl hl' (Element.node.inj h)

theorem OneOwnerLink.nodup_ownedLinks :
    ((s.ownedLinksSweep sub rel).query.targets cx g).Nodup := by
  -- for each owner's node, what the second path finds from there
  have htargets : (s.ownedLinksSweep sub rel).query.targets cx g =
      (s.linksFound sub cx g (endpointConditions "owner" sub.target)).flatMap fun k =>
        (hopLinks cx g
          (hopBinding g Binding.empty { var := some "n", labels := [s.label] }
            (endpointPattern "owner" sub.target)
            { var := none, type := sub.label, arrow := arrow sub.direction }
            ((arrow sub.direction).near g k) k)
          { var := some "n" } { labels := [rel.target.label] }
          { var := some "r", type := rel.label, arrow := arrow rel.direction }
          [stale "r"]).map .link := by
    rw [Sweep.targets_query, Sweep.rows_pair rfl, ownedPath, Path.found_eq_map, boundTo,
      List.filterMap_flatMap, List.flatMap_map]
    apply List.flatMap_congr
    intro k _
    exact boundTo_found_link rfl (by simp)
  rw [htargets, List.nodup_flatMap]
  constructor
  · intro k _
    exact nodup_hopLinks.map fun l l' h => Element.link.inj h
  · -- a link that is found from two owner's links runs from the node of both
    refine nodup_hopLinks.imp_of_mem ?_
    intro k k' hk hk' hne e he he'
    obtain ⟨l, hl, rfl⟩ := List.mem_map.1 he
    obtain ⟨l', hl', h⟩ := List.mem_map.1 he'
    rw [Element.link.inj h] at hl'
    have hnear : (arrow sub.direction).near g k = (arrow rel.direction).near g l := by
      simpa [NodePattern.fits, Binding.admits, hopBinding, Cell.element?, endpointPattern]
        using (mem_hopLinks.1 hl).2.1
    have hnear' : (arrow sub.direction).near g k' = (arrow rel.direction).near g l := by
      simpa [NodePattern.fits, Binding.admits, hopBinding, Cell.element?, endpointPattern]
        using (mem_hopLinks.1 hl').2.1
    exact hne (honce.near_injOn hscope (List.Subset.refl _) hk hk' (hnear.trans hnear'.symm))

end

theorem nodup_ownerLinks (s : NodeSchema) (sub : Relationship) :
    ((s.ownerLinksSweep sub).query.targets cx g).Nodup :=
  Sweep.nodup_targets_link rfl rfl (by simp [ownerLinksSweep, endpointPattern])

theorem nodup_allLinks (s : NodeSchema) (rel : Relationship) :
    ((s.allLinksSweep rel).query.targets cx g).Nodup :=
  Sweep.nodup_targets_link rfl rfl (by simp)

theorem nodup_allNodes (s : NodeSchema) : (s.allNodesSweep.query.targets cx g).Nodup := by
  let label : NodePattern := { var := some "n", labels := [s.label] }
  let bound (n : Nat) : Binding := Binding.empty.bind "n" (.element (.node n))
  -- the path is found once at each node that fits
  have hfound : Path.found cx g Binding.empty { start := label } [stale "n"] =
      ((g.nodes.filter fun n => label.fits cx g Binding.empty n).filter fun n =>
        [stale "n"].all fun c => c.holds cx g (bound n)).map bound := by
    simp only [Path.found, Path.matches, hopMatches]
    rw [← List.map_eq_flatMap, List.filter_map]
    rfl
  have htargets : s.allNodesSweep.query.targets cx g =
      ((g.nodes.filter fun n => label.fits cx g Binding.empty n).filter fun n =>
        [stale "n"].all fun c => c.holds cx g (bound n)).map .node := by
    rw [Sweep.targets_query, Sweep.rows_single rfl, hfound, boundTo, List.filterMap_map,
      ← List.filterMap_eq_map]
    rfl
  rw [htargets]
  apply ((g.nodes_nodup.filter _).filter _).map
  intro n n' h
  exact Element.node.inj h

end NodeSchema

/-- No statement of a cleanup matches an element twice, as long as no node has
    two links to owners. -/
theorem Schema.nodup_targets {schema : Schema} {w : Sweep} (hw : w ∈ schema.sweeps)
    (honce : schema.OneOwnerLink cx g) : (w.query.targets cx g).Nodup := by
  cases schema with
  | node s =>
    have hlinks (hw : w ∈ s.others.map s.allLinksSweep) : (w.query.targets cx g).Nodup := by
      obtain ⟨rel, -, rfl⟩ := List.mem_map.1 hw
      exact s.nodup_allLinks rel
    change w ∈ s.sweeps at hw
    unfold NodeSchema.sweeps at hw
    cases hscope : s.scope with
    | subResource sub =>
      rw [hscope, List.mem_cons, List.mem_cons, List.mem_map] at hw
      rcases hw with rfl | rfl | ⟨rel, -, rfl⟩
      · exact NodeSchema.OneOwnerLink.nodup_ownedNodes honce hscope
      · exact s.nodup_ownerLinks sub
      · exact NodeSchema.OneOwnerLink.nodup_ownedLinks honce hscope
    | relationshipsOnly =>
      rw [hscope] at hw
      exact hlinks hw
    | unscoped =>
      rw [hscope, List.mem_cons] at hw
      rcases hw with rfl | hw
      · exact s.nodup_allNodes
      · exact hlinks hw
  | matchlink link =>
    obtain rfl : w = link.sweep := List.mem_singleton.1 hw
    exact Sweep.nodup_targets_link rfl rfl (by simp)

end GraphSync
