import GraphSync.Proofs.Cleanup.Job
import GraphSync.Proofs.Graph.Endpoint
import GraphSync.Proofs.Run.References

/-! # The targets of a cleanup

    `MayRemove` says what a cleanup may remove, in terms of the schema and the
    graph: elements that another run has marked, within the scope of the
    schema.  Of the parameters it depends on the tag and the names of the scope
    only (`Schema.MayRemove.agree`).

    * The targets of each sweep are characterised one by one
      (`mem_targets_ownedNodes` to `Matchlink.mem_targets`).
    * `Schema.mayRemove_of_mem_targets` puts them together.
    * `Schema.link_of_mem_targets`: what is deleted without its links is a
      link itself, so no statement of a cleanup is ever refused
      (`Database.eager_faithful`). -/

namespace GraphSync

open Cypher Plan

/-! ## What may be removed -/

/-- An element that records a run, and not the one of the parameters. -/
def Graph.Stale (g : Graph) (p : Parameters) (e : Element) : Prop :=
  (g.prop e lastUpdatedKey).same (p.value updateTagParam) = some false

/-- The node of an owner that the parameters name, for the nodes of a schema
    with the sub-resource `sub`. -/
def NodeSchema.OwnedBy (s : NodeSchema) (sub : Relationship) (cx : Context) (g : Graph)
    (n l owner : Nat) : Prop :=
  s.label ∈ g.labels n ∧ g.Joins l sub.label sub.direction n owner ∧
    sub.target.Selects cx (fun _ => .null) g owner

/-- A node of the schema that belongs to the owner, if the schema has one. -/
def NodeSchema.InScope (s : NodeSchema) (cx : Context) (g : Graph) (n : Nat) : Prop :=
  match s.scope with
  | .subResource sub => ∃ l owner, s.OwnedBy sub cx g n l owner
  | _ => s.label ∈ g.labels n

/-- What the cleanup of a node schema may remove: stale nodes in scope, unless
    it is for relationships only; stale links from nodes in scope to the
    owner; and stale links of the other relationships of nodes in scope. -/
def NodeSchema.MayRemove (s : NodeSchema) (cx : Context) (g : Graph) : Element → Prop
  | .node n => s.scope ≠ .relationshipsOnly ∧ s.InScope cx g n ∧ g.Stale cx.params (.node n)
  | .link l => g.Stale cx.params (.link l) ∧
      ((∃ sub n owner, s.scope = .subResource sub ∧ s.OwnedBy sub cx g n l owner) ∨
       ∃ rel ∈ s.others, ∃ n m, s.InScope cx g n ∧ g.Joins l rel.label rel.direction n m ∧
         rel.target.label ∈ g.labels m)

/-- What the cleanup of a matchlink may remove: its stale links with the scope
    markers of the parameters. -/
def Matchlink.MayRemove (link : Matchlink) (cx : Context) (g : Graph) : Element → Prop
  | .node _ => False
  | .link l => g.Stale cx.params (.link l) ∧
      (∃ n m, link.source.label ∈ g.labels n ∧
        g.Joins l link.relationship.label link.relationship.direction n m ∧
        link.relationship.target.label ∈ g.labels m) ∧
      ∀ marker ∈ [scopeLabelKey, scopeIdKey],
        (g.prop (.link l) marker).same (cx.params.value marker) = some true

/-- What the cleanup of a schema may remove. -/
def Schema.MayRemove (schema : Schema) (cx : Context) (g : Graph) (e : Element) : Prop :=
  match schema with
  | .node s => s.MayRemove cx g e
  | .matchlink link => link.MayRemove cx g e

/-! ## From a part of a graph to the whole -/

theorem Graph.Within.stale {g h : Graph} (hw : g.Within h) {p : Parameters} {e : Element}
    (hs : g.Stale p e) : h.Stale p e := by
  unfold Graph.Stale
  rw [← hw.prop]
  exact hs

section Within

variable {g h : Graph} (hw : g.Within h) {cx : Context}
include hw

theorem NodeSchema.OwnedBy.within {s : NodeSchema} {sub : Relationship} {n l owner : Nat}
    (ho : s.OwnedBy sub cx g n l owner) : s.OwnedBy sub cx h n l owner := by
  obtain ⟨hlabel, hjoins, hselects⟩ := ho
  exact ⟨hw.labels ▸ hlabel, hw.joins hjoins, hselects.within hw⟩

theorem NodeSchema.InScope.within {s : NodeSchema} {n : Nat} (hn : s.InScope cx g n) :
    s.InScope cx h n := by
  unfold NodeSchema.InScope at hn ⊢
  cases hscope : s.scope with
  | subResource sub =>
    simp only [hscope] at hn ⊢
    obtain ⟨l, owner, ho⟩ := hn
    exact ⟨l, owner, ho.within hw⟩
  | _ =>
    simp only [hscope] at hn ⊢
    exact hw.labels ▸ hn

theorem Schema.MayRemove.within {schema : Schema} {e : Element} (he : schema.MayRemove cx g e) :
    schema.MayRemove cx h e := by
  cases schema with
  | node s =>
    cases e with
    | node n =>
      obtain ⟨hscope, hin, hstale⟩ := he
      exact ⟨hscope, hin.within hw, hw.stale hstale⟩
    | link l =>
      obtain ⟨hstale, ⟨sub, n, owner, hscope, ho⟩ | ⟨rel, hrel, n, m, hin, hjoins, hlabel⟩⟩ := he
      · exact ⟨hw.stale hstale, .inl ⟨sub, n, owner, hscope, ho.within hw⟩⟩
      · exact ⟨hw.stale hstale, .inr ⟨rel, hrel, n, m, hin.within hw, hw.joins hjoins,
          hw.labels ▸ hlabel⟩⟩
  | matchlink link =>
    cases e with
    | node n => exact he
    | link l =>
      obtain ⟨hstale, ⟨n, m, hsource, hjoins, htarget⟩, hmarkers⟩ := he
      exact ⟨hw.stale hstale,
        ⟨n, m, hw.labels ▸ hsource, hw.joins hjoins, hw.labels ▸ htarget⟩,
        fun marker hm => hw.prop ▸ hmarkers marker hm⟩

end Within

/-! ## From some parameters to others -/

/-- What a cleanup of the schema reads has the same values in two contexts. -/
structure Schema.Agrees (schema : Schema) (cx cx' : Context) : Prop where
  lower : cx'.lower = cx.lower
  tag   : cx'.params.value updateTagParam = cx.params.value updateTagParam
  scope : ∀ name ∈ schema.scopeNames, cx'.params.value name = cx.params.value name

section Agrees

variable {cx cx' : Context} {g : Graph} {e : Element}

theorem Schema.Agrees.stale {schema : Schema} (h : schema.Agrees cx cx')
    (hs : g.Stale cx.params e) : g.Stale cx'.params e := by
  unfold Graph.Stale
  rw [h.tag]
  exact hs

variable {s : NodeSchema} (h : (Schema.node s).Agrees cx cx')
include h

theorem NodeSchema.OwnedBy.agree {sub : Relationship} (hscope : s.scope = .subResource sub)
    {n l owner : Nat} (ho : s.OwnedBy sub cx g n l owner) : s.OwnedBy sub cx' g n l owner := by
  obtain ⟨hlabel, hjoins, hselects⟩ := ho
  refine ⟨hlabel, hjoins, (Endpoint.selects_agree h.lower ?_).2 hselects⟩
  intro entry hentry
  unfold Reference.value
  cases horigin : entry.2.origin with
  | row => rfl
  | parameter =>
    -- the name of the parameter is one of those that find the owner
    have howner : s.ownerReferences = sub.target.matcher.references := by
      simp [NodeSchema.ownerReferences, NodeSchema.subResource?, hscope]
    have hparam : entry.2.isParameter = true := by simp [Reference.isParameter, horigin]
    have hname : entry.2.name ∈ parameterNames s.ownerReferences := by
      rw [howner, mem_parameterNames]
      exact ⟨entry.2, List.mem_map_of_mem hentry, Reference.mem_params_expr.2 ⟨hparam, rfl⟩⟩
    exact h.scope _ hname

theorem NodeSchema.InScope.agree {n : Nat} (hn : s.InScope cx g n) : s.InScope cx' g n := by
  unfold NodeSchema.InScope at hn ⊢
  cases hscope : s.scope with
  | subResource sub =>
    simp only [hscope] at hn ⊢
    obtain ⟨l, owner, ho⟩ := hn
    exact ⟨l, owner, ho.agree h hscope⟩
  | _ =>
    simp only [hscope] at hn ⊢
    exact hn

theorem NodeSchema.MayRemove.agree (he : s.MayRemove cx g e) : s.MayRemove cx' g e := by
  cases e with
  | node n =>
    obtain ⟨hscope, hin, hstale⟩ := he
    exact ⟨hscope, hin.agree h, h.stale hstale⟩
  | link l =>
    obtain ⟨hstale, ⟨sub, n, owner, hscope, ho⟩ | ⟨rel, hrel, n, m, hin, hends⟩⟩ := he
    · exact ⟨h.stale hstale, .inl ⟨sub, n, owner, hscope, ho.agree h hscope⟩⟩
    · exact ⟨h.stale hstale, .inr ⟨rel, hrel, n, m, hin.agree h, hends⟩⟩

omit h in
theorem Schema.MayRemove.agree {schema : Schema} (h : schema.Agrees cx cx')
    (he : schema.MayRemove cx g e) : schema.MayRemove cx' g e := by
  cases schema with
  | node s => exact NodeSchema.MayRemove.agree h he
  | matchlink link =>
    cases e with
    | node n => exact he
    | link l =>
      obtain ⟨hstale, hends, hmarkers⟩ := he
      refine ⟨h.stale hstale, hends, ?_⟩
      intro marker hmarker
      rw [h.scope marker hmarker]
      exact hmarkers marker hmarker

end Agrees

/-! ## The targets of each sweep -/

variable {cx : Context} {g : Graph} {b b' : Binding} {e : Element}

theorem Plan.stale_holds {var : String} (hb : b.element? var = some e) :
    (stale var).holds cx g b = true ↔ g.Stale cx.params e := by
  unfold Graph.Stale
  simp only [stale, Condition.holds, Condition.truth, Expr.cell, Cell.same,
    Binding.property_of_element hb, beq_iff_eq]
  rw [Option.map_eq_some_iff]
  simp

/-- `Means cx g var conditions P`: the conditions mean `P` of what a variable is
    bound to. -/
def Plan.Means (cx : Context) (g : Graph) (var : String) (conditions : List Condition)
    (P : Element → Prop) : Prop :=
  ∀ b e, Binding.element? b var = some e → ((∀ c ∈ conditions, c.holds cx g b = true) ↔ P e)

theorem Plan.means_stale (var : String) : Means cx g var [stale var] (g.Stale cx.params) := by
  intro b e hb
  rw [List.forall_mem_singleton]
  exact stale_holds hb

/-- A label as the only condition on a node. -/
theorem Plan.label_fits_iff {var : Option String} {label : String} {n : Nat} :
    ({ var, labels := [label] } : NodePattern).fits cx g b n = true ↔
      b.admits var (.node n) = true ∧ label ∈ g.labels n := by
  simp [NodePattern.fits]

/-- A link from a node on the left to a node with a label. -/
theorem Plan.mem_found_link {left : NodePattern} {type label : String} {d : Direction}
    {conditions : List Condition} (hfree : b "r" = none) (hleft : "r" ∉ left.var) :
    b' ∈ Path.found cx g b
        { start := left
          hops := [({ var := some "r", type, arrow := arrow d }, { labels := [label] })] }
        conditions ↔
      ∃ n l m, left.fits cx g b n = true ∧ g.Joins l type d n m ∧ label ∈ g.labels m ∧
        b' = (b.bindVar left.var (.element (.node n))).bind "r" (.element (.link l)) ∧
        ∀ c ∈ conditions, c.holds cx g b' = true := by
  -- the node on the left may be bound to a variable, but not to that of the link
  have hfree' (n : Nat) :
      (some "r").bind (b.bindVar left.var (.element (.node n))) = none := by
    cases hvar : left.var with
    | none => exact hfree
    | some v =>
      have hne : "r" ≠ v := fun h => hleft (by rw [hvar, h]; rfl)
      simp [hne, hfree]
  rw [Path.mem_found, Path.mem_matches_hop]
  constructor
  · rintro ⟨⟨n, -, l, hl, hfits, hrel, hright, rfl⟩, hconditions⟩
    obtain ⟨htype, hnear⟩ := (RelPattern.fits_arrow_iff (hfree' n)).1 hrel
    exact ⟨n, l, _, hfits, Graph.joins_iff.2 ⟨hl, htype, hnear, rfl⟩, (label_fits_iff.1 hright).2,
      rfl, hconditions⟩
  · rintro ⟨n, l, m, hfits, hjoins, hlabel, rfl, hconditions⟩
    obtain ⟨hl, htype, hnear, rfl⟩ := Graph.joins_iff.1 hjoins
    have hn : n ∈ g.nodes := by
      rw [← hnear]
      exact Arrow.near_mem hl _
    exact ⟨⟨n, hn, l, hl, hfits, (RelPattern.fits_arrow_iff (hfree' n)).2 ⟨htype, hnear⟩,
      label_fits_iff.2 ⟨rfl, hlabel⟩, rfl⟩, hconditions⟩

/-- A sweep of links from a node with one label to a node with another. -/
theorem Plan.mem_targets_links {w : Sweep} {v : Option String} {label type other : String}
    {d : Direction} {conditions : List Condition}
    (hw : w.reads = [({ start := { var := v, labels := [label] }
                        hops := [({ var := some "r", type, arrow := arrow d },
                                  { labels := [other] })] }, conditions)])
    (hvar : w.var = "r") (hv : "r" ∉ v) :
    e ∈ w.query.targets cx g ↔
      ∃ n l m, e = .link l ∧ label ∈ g.labels n ∧ g.Joins l type d n m ∧ other ∈ g.labels m ∧
        ∀ c ∈ conditions, c.holds cx g ((Binding.empty.bindVar v (.element (.node n))).bind "r"
          (.element (.link l))) = true := by
  rw [Sweep.mem_targets, hvar]
  constructor
  · rintro ⟨b, hb, hbe⟩
    rw [Sweep.mem_rows_single hw] at hb
    obtain ⟨n, l, m, hn, hjoins, hlabel, rfl, hconditions⟩ := (mem_found_link (by rfl) hv).1 hb
    obtain rfl : e = .link l := (Option.some.inj hbe).symm
    exact ⟨n, l, m, rfl, (label_fits_iff.1 hn).2, hjoins, hlabel, hconditions⟩
  · rintro ⟨n, l, m, rfl, hn, hjoins, hlabel, hconditions⟩
    have hadmits : Binding.empty.admits v (.node n) = true := by
      cases v <;> rfl
    exact ⟨_, (Sweep.mem_rows_single hw).2 ((mem_found_link (by rfl) hv).2
      ⟨n, l, m, label_fits_iff.2 ⟨hadmits, hn⟩, hjoins, hlabel, rfl, hconditions⟩), rfl⟩

namespace NodeSchema

variable {s : NodeSchema} {sub rel : Relationship}

/-- A link fits the path of ownership just when it is one from a node to an
    owner. -/
theorem ownedBy_iff_fits {relVar : Option String}
    (hrel : ∀ v ∈ relVar, v ≠ "n" ∧ v ≠ "owner" ∧ v ≠ rowAlias) {n l : Nat} (hl : l ∈ g.links) :
    let m := (arrow sub.direction).far g l
    let b₁ := Binding.empty.bind "n" (.element (.node n))
    let b₂ := b₁.bindVar relVar (.element (.link l))
    s.OwnedBy sub cx g n l m ↔
      ({ var := some "n", labels := [s.label] } : NodePattern).fits cx g Binding.empty n = true ∧
      ({ var := relVar, type := sub.label, arrow := arrow sub.direction } : RelPattern).fits g b₁ n l
        = true ∧
      (endpointPattern "owner" sub.target).fits cx g b₂ m = true ∧
      ∀ c ∈ endpointConditions "owner" sub.target,
        c.holds cx g (b₂.bind "owner" (.element (.node m))) = true := by
  intro m b₁ b₂
  have hfree : relVar.bind b₁ = none := by
    cases relVar with
    | none => rfl
    | some v =>
      have hv := (hrel v rfl).1
      simp [b₁, hv, Binding.empty]
  -- the variables of the path are all different, so none is bound before its turn
  have hother (v : String) (hv : v ≠ "n") (hne : ∀ r ∈ relVar, v ≠ r) : b₂ v = none := by
    cases relVar with
    | none => simp [b₂, b₁, hv, Binding.empty]
    | some r => simp [b₂, b₁, hv, hne r rfl, Binding.empty]
  have howner := hother "owner" (by decide) fun r hr => (hrel r hr).2.1.symm
  have hrow := hother rowAlias (by decide) fun r hr => (hrel r hr).2.2.symm
  have hselects : ((endpointPattern "owner" sub.target).fits cx g b₂ m = true ∧
      ∀ c ∈ endpointConditions "owner" sub.target,
        c.holds cx g (b₂.bind "owner" (.element (.node m))) = true) ↔
      sub.target.Selects cx (b₂.property g rowAlias) g m := Endpoint.selects_iff howner (by decide)
  rw [Binding.property_of_free hrow] at hselects
  rw [OwnedBy, Graph.joins_iff, ← hselects, label_fits_iff, RelPattern.fits_arrow_iff hfree]
  constructor
  · intro h
    obtain ⟨hlabel, ⟨-, htype, hnear, -⟩, hright, hconditions⟩ := h
    exact ⟨⟨rfl, hlabel⟩, ⟨htype, hnear⟩, hright, hconditions⟩
  · intro h
    obtain ⟨⟨-, hlabel⟩, ⟨htype, hnear⟩, hright, hconditions⟩ := h
    exact ⟨hlabel, ⟨hl, htype, hnear, rfl⟩, hright, hconditions⟩

/-- The path of ownership finds the nodes of the owner, with their links. -/
theorem mem_found_ownedPath (relVar : Option String)
    (hrel : ∀ v ∈ relVar, v ≠ "n" ∧ v ≠ "owner" ∧ v ≠ rowAlias) :
    b' ∈ (s.ownedPath sub relVar).found cx g Binding.empty (endpointConditions "owner" sub.target) ↔
      ∃ n l owner, s.OwnedBy sub cx g n l owner ∧
        b' = ((Binding.empty.bind "n" (.element (.node n))).bindVar relVar
          (.element (.link l))).bind "owner" (.element (.node owner)) := by
  rw [Path.mem_found, ownedPath, Path.mem_matches_hop]
  constructor
  · rintro ⟨⟨n, hn, l, hl, hleft, hfit, hright, rfl⟩, hconditions⟩
    exact ⟨n, l, _, (ownedBy_iff_fits hrel hl).2 ⟨hleft, hfit, hright, hconditions⟩, rfl⟩
  · rintro ⟨n, l, owner, howned, rfl⟩
    obtain ⟨hl, -, hnear, rfl⟩ := Graph.joins_iff.1 howned.2.1
    have hn : n ∈ g.nodes := by
      rw [← hnear]
      exact Arrow.near_mem hl _
    obtain ⟨hleft, hfit, hright, hconditions⟩ := (ownedBy_iff_fits hrel hl).1 howned
    exact ⟨⟨n, hn, l, hl, hleft, hfit, hright, rfl⟩, hconditions⟩

/-- A sweep along the path of ownership, when what it deletes is the element
    `found` of a node and its link. -/
theorem mem_targets_owned {w : Sweep} {relVar : Option String} {conditions : List Condition}
    {P : Element → Prop} {found : Nat → Nat → Element}
    (hw : w.reads =
      [(s.ownedPath sub relVar, conditions ++ endpointConditions "owner" sub.target)])
    (hmeans : Means cx g w.var conditions P)
    (hrel : ∀ v ∈ relVar, v ≠ "n" ∧ v ≠ "owner" ∧ v ≠ rowAlias)
    (hvar : ∀ n l owner, Binding.element?
      (((Binding.empty.bind "n" (.element (.node n))).bindVar relVar (.element (.link l))).bind
        "owner" (.element (.node owner))) w.var = some (found n l)) :
    e ∈ w.query.targets cx g ↔
      ∃ n l owner, e = found n l ∧ s.OwnedBy sub cx g n l owner ∧ P (found n l) := by
  rw [Sweep.mem_targets]
  constructor
  · rintro ⟨b, hb, hbe⟩
    rw [Sweep.mem_rows_single hw, Path.mem_found_append] at hb
    obtain ⟨hconditions, hb⟩ := hb
    obtain ⟨n, l, owner, ho, rfl⟩ := (mem_found_ownedPath relVar hrel).1 hb
    have he : e = found n l := Option.some.inj (hbe.symm.trans (hvar n l owner))
    subst he
    exact ⟨n, l, owner, rfl, ho, (hmeans _ _ hbe).1 hconditions⟩
  · rintro ⟨n, l, owner, rfl, ho, hP⟩
    have hb := (mem_found_ownedPath relVar hrel).2 ⟨n, l, owner, ho, rfl⟩
    refine ⟨_, (Sweep.mem_rows_single hw).2 (Path.mem_found_append.2 ⟨?_, hb⟩), hvar n l owner⟩
    exact (hmeans _ _ (hvar n l owner)).2 hP

theorem mem_targets_ownedNodes :
    e ∈ (s.ownedNodesSweep sub).query.targets cx g ↔
      ∃ n l owner, e = .node n ∧ s.OwnedBy sub cx g n l owner ∧ g.Stale cx.params (.node n) := by
  have hreads : (s.ownedNodesSweep sub).reads =
      [(s.ownedPath sub none, [stale "n"] ++ endpointConditions "owner" sub.target)] := rfl
  exact mem_targets_owned hreads (means_stale "n") (by simp) fun _ _ _ => rfl

theorem mem_targets_ownerLinks :
    e ∈ (s.ownerLinksSweep sub).query.targets cx g ↔
      ∃ n l owner, e = .link l ∧ s.OwnedBy sub cx g n l owner ∧ g.Stale cx.params (.link l) := by
  have hreads : (s.ownerLinksSweep sub).reads =
      [(s.ownedPath sub (some "s"), [stale "s"] ++ endpointConditions "owner" sub.target)] := rfl
  exact mem_targets_owned hreads (means_stale "s") (by simp [rowAlias]) fun _ _ _ => rfl

/-- A sweep of the links of a relationship, from nodes that belong to the
    owner. -/
theorem mem_targets_linksOwned {w : Sweep} {conditions : List Condition} {P : Element → Prop}
    (hw : w.reads = [(s.ownedPath sub none, endpointConditions "owner" sub.target),
      (linkPath { var := some "n" } rel, conditions)])
    (hvar : w.var = "r") (hmeans : Means cx g "r" conditions P) :
    e ∈ w.query.targets cx g ↔
      ∃ n k owner l m, e = .link l ∧ s.OwnedBy sub cx g n k owner ∧
        g.Joins l rel.label rel.direction n m ∧ rel.target.label ∈ g.labels m ∧ P (.link l) := by
  rw [Sweep.mem_targets, hvar]
  constructor
  · rintro ⟨b, hb, hbe⟩
    obtain ⟨b₁, hb₁, hb⟩ := (Sweep.mem_rows_pair hw).1 hb
    obtain ⟨n, k, owner, ho, rfl⟩ := (mem_found_ownedPath none (by simp)).1 hb₁
    obtain ⟨n', l, m, hn, hjoins, hlabel, rfl, hconditions⟩ :=
      (mem_found_link (by rfl) (by simp)).1 hb
    -- the second path starts at the node that the first has bound
    obtain rfl : n = n' := by
      simpa [NodePattern.fits, Binding.admits, Cell.element?] using hn
    obtain rfl : e = .link l := (Option.some.inj hbe).symm
    exact ⟨n, k, owner, l, m, rfl, ho, hjoins, hlabel, (hmeans _ _ hbe).1 hconditions⟩
  · rintro ⟨n, k, owner, l, m, rfl, ho, hjoins, hlabel, hP⟩
    refine ⟨_, (Sweep.mem_rows_pair hw).2 ⟨_, (mem_found_ownedPath none (by simp)).2
      ⟨n, k, owner, ho, rfl⟩, (mem_found_link (by rfl) (by simp)).2
      ⟨n, l, m, ?_, hjoins, hlabel, rfl, ?_⟩⟩, rfl⟩
    · simp [NodePattern.fits, Binding.admits, Cell.element?]
    · exact (hmeans _ _ rfl).2 hP

theorem mem_targets_ownedLinks :
    e ∈ (s.ownedLinksSweep sub rel).query.targets cx g ↔
      ∃ n k owner l m, e = .link l ∧ s.OwnedBy sub cx g n k owner ∧
        g.Joins l rel.label rel.direction n m ∧ rel.target.label ∈ g.labels m ∧
        g.Stale cx.params (.link l) :=
  mem_targets_linksOwned rfl rfl (means_stale "r")

/-- A sweep of the nodes with the label. -/
theorem mem_targets_labelled {w : Sweep} {conditions : List Condition} {P : Element → Prop}
    (hw : w.reads = [({ start := { var := some "n", labels := [s.label] } }, conditions)])
    (hvar : w.var = "n") (hmeans : Means cx g "n" conditions P) :
    e ∈ w.query.targets cx g ↔ ∃ n ∈ g.nodes, e = .node n ∧ s.label ∈ g.labels n ∧ P (.node n) := by
  rw [Sweep.mem_targets, hvar]
  constructor
  · rintro ⟨b, hb, hbe⟩
    rw [Sweep.mem_rows_single hw, Path.mem_found, Path.mem_matches_node] at hb
    obtain ⟨⟨n, hn, hfits, rfl⟩, hconditions⟩ := hb
    obtain rfl : e = .node n := (Option.some.inj hbe).symm
    exact ⟨n, hn, rfl, (label_fits_iff.1 hfits).2, (hmeans _ _ hbe).1 hconditions⟩
  · rintro ⟨n, hn, rfl, hlabel, hP⟩
    refine ⟨_, (Sweep.mem_rows_single hw).2 (Path.mem_found.2
      ⟨Path.mem_matches_node.2 ⟨n, hn, label_fits_iff.2 ⟨rfl, hlabel⟩, rfl⟩, ?_⟩), rfl⟩
    exact (hmeans _ _ rfl).2 hP

theorem mem_targets_allNodes :
    e ∈ s.allNodesSweep.query.targets cx g ↔
      ∃ n ∈ g.nodes, e = .node n ∧ s.label ∈ g.labels n ∧ g.Stale cx.params (.node n) :=
  mem_targets_labelled rfl rfl (means_stale "n")

theorem mem_targets_allLinks :
    e ∈ (s.allLinksSweep rel).query.targets cx g ↔
      ∃ n l m, e = .link l ∧ s.label ∈ g.labels n ∧ g.Joins l rel.label rel.direction n m ∧
        rel.target.label ∈ g.labels m ∧ g.Stale cx.params (.link l) := by
  rw [mem_targets_links rfl rfl (by simp)]
  constructor
  · rintro ⟨n, l, m, rfl, hn, hjoins, hlabel, hstale⟩
    rw [List.forall_mem_singleton] at hstale
    exact ⟨n, l, m, rfl, hn, hjoins, hlabel, (stale_holds rfl).1 hstale⟩
  · rintro ⟨n, l, m, rfl, hn, hjoins, hlabel, hstale⟩
    refine ⟨n, l, m, rfl, hn, hjoins, hlabel, ?_⟩
    rw [List.forall_mem_singleton]
    exact (stale_holds rfl).2 hstale

end NodeSchema

/-- A condition that a property of a bound element is equal to a parameter. -/
theorem Plan.marker_holds {var marker : String} (hb : b.element? var = some e) :
    (Condition.eq (.property var marker) (.param marker)).holds cx g b = true ↔
      (g.prop e marker).same (cx.params.value marker) = some true := by
  simp only [Condition.holds, Condition.truth, Expr.cell, Cell.same, Binding.property_of_element hb,
    beq_iff_eq]

theorem Matchlink.mem_targets {link : Matchlink} :
    e ∈ link.sweep.query.targets cx g ↔
      ∃ l, e = .link l ∧ link.MayRemove cx g (.link l) := by
  rw [mem_targets_links rfl rfl (by simp)]
  constructor
  · rintro ⟨n, l, m, rfl, hn, hjoins, hlabel, hconditions⟩
    simp only [List.forall_mem_cons] at hconditions
    obtain ⟨hstale, hfirst, hsecond, -⟩ := hconditions
    refine ⟨l, rfl, (stale_holds rfl).1 hstale, ⟨n, m, hn, hjoins, hlabel⟩, ?_⟩
    simp only [List.forall_mem_cons]
    exact ⟨(marker_holds rfl).1 hfirst, (marker_holds rfl).1 hsecond, by simp⟩
  · rintro ⟨l, rfl, hstale, ⟨n, m, hn, hjoins, hlabel⟩, hmarkers⟩
    refine ⟨n, l, m, rfl, hn, hjoins, hlabel, ?_⟩
    simp only [List.forall_mem_cons] at hmarkers ⊢
    exact ⟨(stale_holds rfl).2 hstale, (marker_holds rfl).2 hmarkers.1,
      (marker_holds rfl).2 hmarkers.2.1, by simp⟩

/-! ## All targets are in scope -/

theorem NodeSchema.mayRemove_of_mem_targets {s : NodeSchema} {w : Sweep} (hw : w ∈ s.sweeps)
    (he : e ∈ w.query.targets cx g) : s.MayRemove cx g e := by
  unfold NodeSchema.sweeps at hw
  -- a node with the label is in scope when no owner restricts the cleanup
  have hall : (∀ sub, s.scope ≠ .subResource sub) →
      ∀ n, s.label ∈ g.labels n → s.InScope cx g n := by
    intro hscope n hn
    unfold NodeSchema.InScope
    split
    · next sub hsub => exact absurd hsub (hscope sub)
    · exact hn
  have hlinks : (∀ sub, s.scope ≠ .subResource sub) → w ∈ s.others.map s.allLinksSweep →
      s.MayRemove cx g e := by
    intro hscope hw
    obtain ⟨rel, hrel, rfl⟩ := List.mem_map.1 hw
    obtain ⟨n, l, m, rfl, hn, hjoins, hlabel, hstale⟩ := mem_targets_allLinks.1 he
    exact ⟨hstale, .inr ⟨rel, hrel, n, m, hall hscope n hn, hjoins, hlabel⟩⟩
  cases hscope : s.scope with
  | subResource sub =>
    have howned {n l owner : Nat} (ho : s.OwnedBy sub cx g n l owner) : s.InScope cx g n := by
      unfold NodeSchema.InScope
      rw [hscope]
      exact ⟨l, owner, ho⟩
    rw [hscope, List.mem_cons, List.mem_cons, List.mem_map] at hw
    rcases hw with rfl | rfl | ⟨rel, hrel, rfl⟩
    · obtain ⟨n, l, owner, rfl, ho, hstale⟩ := mem_targets_ownedNodes.1 he
      exact ⟨by simp [hscope], howned ho, hstale⟩
    · obtain ⟨n, l, owner, rfl, ho, hstale⟩ := mem_targets_ownerLinks.1 he
      exact ⟨hstale, .inl ⟨sub, n, owner, hscope, ho⟩⟩
    · obtain ⟨n, k, owner, l, m, rfl, ho, hjoins, hlabel, hstale⟩ := mem_targets_ownedLinks.1 he
      exact ⟨hstale, .inr ⟨rel, hrel, n, m, howned ho, hjoins, hlabel⟩⟩
  | relationshipsOnly =>
    rw [hscope] at hw
    exact hlinks (by simp [hscope]) hw
  | unscoped =>
    rw [hscope, List.mem_cons] at hw
    rcases hw with rfl | hw
    · obtain ⟨n, -, rfl, hn, hstale⟩ := mem_targets_allNodes.1 he
      exact ⟨by simp [hscope], hall (by simp [hscope]) n hn, hstale⟩
    · exact hlinks (by simp [hscope]) hw

/-- A sweep of a schema has no targets but those that the schema may
    remove. -/
theorem Schema.mayRemove_of_mem_targets {schema : Schema} {w : Sweep} (hw : w ∈ schema.sweeps)
    (he : e ∈ w.query.targets cx g) : schema.MayRemove cx g e := by
  cases schema with
  | node s => exact s.mayRemove_of_mem_targets hw he
  | matchlink link =>
    obtain rfl : w = link.sweep := List.mem_singleton.1 hw
    obtain ⟨l, rfl, hl⟩ := Matchlink.mem_targets.1 he
    exact hl

/-! ## No statement is refused -/

/-- What a cleanup deletes without its links is a link. -/
theorem Schema.link_of_mem_targets {schema : Schema} {w : Sweep} (hw : w ∈ schema.sweeps)
    (hdetach : w.detach = false) (he : e ∈ w.query.targets cx g) : ∃ l, e = .link l := by
  have hlinks {s : NodeSchema} (hw : w ∈ s.others.map s.allLinksSweep) : ∃ l, e = .link l := by
    obtain ⟨rel, -, rfl⟩ := List.mem_map.1 hw
    obtain ⟨n, l, m, hl, -⟩ := NodeSchema.mem_targets_allLinks.1 he
    exact ⟨l, hl⟩
  cases schema with
  | node s =>
    change w ∈ s.sweeps at hw
    unfold NodeSchema.sweeps at hw
    cases hscope : s.scope with
    | subResource sub =>
      rw [hscope, List.mem_cons, List.mem_cons, List.mem_map] at hw
      rcases hw with rfl | rfl | ⟨rel, -, rfl⟩
      · cases hdetach
      · obtain ⟨n, l, owner, hl, -⟩ := NodeSchema.mem_targets_ownerLinks.1 he
        exact ⟨l, hl⟩
      · obtain ⟨n, k, owner, l, m, hl, -⟩ := NodeSchema.mem_targets_ownedLinks.1 he
        exact ⟨l, hl⟩
    | relationshipsOnly =>
      rw [hscope] at hw
      exact hlinks hw
    | unscoped =>
      rw [hscope, List.mem_cons] at hw
      rcases hw with rfl | hw
      · cases hdetach
      · exact hlinks hw
  | matchlink link =>
    obtain rfl : w = link.sweep := List.mem_singleton.1 hw
    obtain ⟨l, hl, -⟩ := Matchlink.mem_targets.1 he
    exact ⟨l, hl⟩

/-- The eager database is faithful to every cleanup job whose windows can be
    counted. -/
theorem Database.eager_faithful {schema : Schema} {job : CleanupJob} (hjob : schema.HasJob job)
    (o : SyncOptions) (hwindow : o.window.toNat < Int64.size / 2) (lower : String → String)
    (g : Graph) :
    (eager lower).Faithful lower (job.tasks o) g := by
  intro i s t ht _
  obtain ⟨w, hw, rfl⟩ := hjob.exists_sweep ht
  apply eager_answers hwindow
  intro hdetach e he
  exact Schema.link_of_mem_targets hw hdetach he

end GraphSync
