import GraphSync.Plan.Parts
import GraphSync.Proofs.Graph.Pattern

/-! # What endpoints and relationships mean in a graph

    A schema speaks of endpoints, references and directions, and a compiled
    query of patterns, expressions and arrows.  Here the first are given a
    meaning of their own, and the second are shown to have it.

    * `Endpoint.selects_iff`: the pattern and the conditions of an endpoint
      find the nodes that the endpoint selects.
    * `Graph.joins_iff`: an arrow runs along the links of its direction. -/

namespace GraphSync

open Cypher Plan

/-! ## Values of references -/

/-- The value of a reference, given the fields of the row. -/
def Reference.value (p : Parameters) (field : String → Json) (r : Reference) : Json :=
  match r.origin with
  | .row => field r.name
  | .parameter => p.value r.name

@[simp] theorem Reference.cell_expr (cx : Context) (g : Graph) (b : Binding) (r : Reference) :
    r.expr.cell cx g b = .value (r.value cx.params (b.property g rowAlias)) := by
  unfold Reference.expr Reference.value
  cases r.origin <;> rfl

/-! ## Selecting nodes -/

/-- Whether a node's value is accepted where another is wanted. -/
def MatchMode.accepts (lower : String → String) (actual wanted : Json) : MatchMode → Option Bool
  | .exact => actual.same wanted
  | .oneToMany => actual.isIn wanted
  | .ignoreCase => (actual.lowered lower).same (wanted.lowered lower)
  | .fuzzy => (actual.lowered lower).holdsText (wanted.lowered lower)

/-- A node of the endpoint's label that meets all its fields. -/
structure Endpoint.Selects (cx : Context) (field : String → Json) (g : Graph) (e : Endpoint)
    (n : Nat) : Prop where
  label  : e.label ∈ g.labels n
  fields : ∀ entry ∈ e.matcher,
    entry.2.mode.accepts cx.lower (g.prop (.node n) entry.1) (entry.2.value cx.params field) =
      some true

theorem Endpoint.Selects.within {g h : Graph} (hw : g.Within h) {cx : Context}
    {field : String → Json} {e : Endpoint} {n : Nat} (hn : e.Selects cx field g n) :
    e.Selects cx field h n where
  label := by
    rw [← hw.labels]
    exact hn.label
  fields := by
    rw [← hw.prop]
    exact hn.fields

/-- An endpoint selects the same nodes wherever its references have the same
    values. -/
theorem Endpoint.selects_agree {e : Endpoint} {cx cx' : Context} {field field' : String → Json}
    (hlower : cx'.lower = cx.lower)
    (hvalue : ∀ entry ∈ e.matcher,
      entry.2.value cx'.params field' = entry.2.value cx.params field) {g : Graph} {n : Nat} :
    e.Selects cx' field' g n ↔ e.Selects cx field g n := by
  constructor
  · intro h
    refine ⟨h.label, ?_⟩
    intro entry hmem
    rw [← hlower, ← hvalue entry hmem]
    exact h.fields entry hmem
  · intro h
    refine ⟨h.label, ?_⟩
    intro entry hmem
    rw [hlower, hvalue entry hmem]
    exact h.fields entry hmem

/-- An endpoint that is found by parameters only selects the same nodes for all
    rows, and wherever its parameters have the same values. -/
theorem Endpoint.selects_of_parameters {e : Endpoint}
    (hparams : ∀ entry ∈ e.matcher, entry.2.isParameter = true) {cx cx' : Context}
    (hlower : cx'.lower = cx.lower)
    (hvalue : ∀ entry ∈ e.matcher,
      cx'.params.value entry.2.name = cx.params.value entry.2.name)
    (field field' : String → Json) {g : Graph} {n : Nat} :
    e.Selects cx' field' g n ↔ e.Selects cx field g n := by
  apply selects_agree hlower
  intro entry hmem
  have horigin : entry.2.origin = .parameter := by
    simpa [Reference.isParameter] using hparams entry hmem
  unfold Reference.value
  rw [horigin]
  exact hvalue entry hmem

/-- An entry of a matcher is either part of the pattern or a condition, and
    says the same in both places. -/
theorem Plan.entry_accepts_iff (cx : Context) {g : Graph} {b b' : Binding} {var : String}
    {n : Nat} (hvar : b' var = some (.element (.node n))) {entry : String × Reference}
    {wanted : Json} (hpattern : entry.2.expr.cell cx g b = .value wanted)
    (hcondition : entry.2.expr.cell cx g b' = .value wanted) :
    ((∀ p ∈ patternProp entry, (g.prop (.node n) p.1).same (p.2.cell cx g b).json = some true) ∧
        ∀ c ∈ fieldCondition var entry, c.holds cx g b' = true) ↔
      entry.2.mode.accepts cx.lower (g.prop (.node n) entry.1) wanted = some true := by
  obtain ⟨field, r⟩ := entry
  have hactual : (Expr.property var field).cell cx g b' = .value (g.prop (.node n) field) := by
    simp only [Expr.cell, Binding.property, hvar]
  have hlower (e : Expr) :
      (Expr.toLower e).cell cx g b' = .value ((e.cell cx g b').json.lowered cx.lower) := rfl
  cases hmode : r.mode with
  | exact => simp [patternProp, fieldCondition, hmode, MatchMode.accepts, hpattern, Cell.json]
  | _ =>
    simp [patternProp, fieldCondition, hmode, MatchMode.accepts, Condition.holds, Condition.truth,
      hlower, hactual, hcondition, Cell.json, Cell.same]

theorem Plan.endpointPattern_fits_iff {cx : Context} {g : Graph} {b : Binding} {var : String}
    {n : Nat} {e : Endpoint} :
    (endpointPattern var e).fits cx g b n = true ↔
      b.admits (some var) (.node n) = true ∧ e.label ∈ g.labels n ∧
        ∀ entry ∈ e.matcher, ∀ p ∈ patternProp entry,
          (g.prop (.node n) p.1).same (p.2.cell cx g b).json = some true := by
  simp only [NodePattern.fits, endpointPattern, List.all_cons, List.all_nil, Bool.and_true,
    Bool.and_eq_true, decide_eq_true_eq, List.all_eq_true, List.mem_filterMap, beq_iff_eq,
    and_assoc]
  constructor
  · rintro ⟨hadmits, hlabel, hprops⟩
    exact ⟨hadmits, hlabel, fun entry hentry p hp => hprops p ⟨entry, hentry, hp⟩⟩
  · rintro ⟨hadmits, hlabel, hprops⟩
    refine ⟨hadmits, hlabel, ?_⟩
    rintro p ⟨entry, hentry, hp⟩
    exact hprops entry hentry p hp

theorem Plan.endpointConditions_hold_iff {cx : Context} {g : Graph} {b : Binding} {var : String}
    {e : Endpoint} :
    (∀ c ∈ endpointConditions var e, c.holds cx g b = true) ↔
      ∀ entry ∈ e.matcher, ∀ c ∈ fieldCondition var entry, c.holds cx g b = true := by
  simp only [endpointConditions, List.mem_filterMap]
  constructor
  · intro h entry hentry c hc
    exact h c ⟨entry, hentry, hc⟩
  · rintro h c ⟨entry, hentry, hc⟩
    exact h entry hentry c hc

/-- Where the references of a matcher have the same values, its pattern and
    its conditions accept the nodes that all fields accept.  The pattern is
    tried under `b`, before the node is bound, and the conditions under `b'`. -/
theorem Plan.endpoint_accepts_iff {cx : Context} {g : Graph} {b b' : Binding} {var : String}
    {n : Nat} {e : Endpoint} (hadmits : b.admits (some var) (.node n) = true)
    (hvar : b' var = some (.element (.node n))) {wanted : Reference → Json}
    (hpattern : ∀ entry ∈ e.matcher, entry.2.expr.cell cx g b = .value (wanted entry.2))
    (hcondition : ∀ entry ∈ e.matcher, entry.2.expr.cell cx g b' = .value (wanted entry.2)) :
    ((endpointPattern var e).fits cx g b n = true ∧
        ∀ c ∈ endpointConditions var e, c.holds cx g b' = true) ↔
      e.label ∈ g.labels n ∧ ∀ entry ∈ e.matcher,
        entry.2.mode.accepts cx.lower (g.prop (.node n) entry.1) (wanted entry.2) = some true := by
  have hentry (entry : String × Reference) (hmem : entry ∈ e.matcher) :=
    entry_accepts_iff cx hvar (hpattern entry hmem) (hcondition entry hmem)
  rw [endpointPattern_fits_iff, endpointConditions_hold_iff]
  constructor
  · rintro ⟨⟨-, hlabel, hprops⟩, hconds⟩
    exact ⟨hlabel, fun entry hmem =>
      (hentry entry hmem).1 ⟨hprops entry hmem, hconds entry hmem⟩⟩
  · rintro ⟨hlabel, hfields⟩
    have hboth (entry : String × Reference) (hmem : entry ∈ e.matcher) :=
      (hentry entry hmem).2 (hfields entry hmem)
    exact ⟨⟨hadmits, hlabel, fun entry hmem => (hboth entry hmem).1⟩,
      fun entry hmem => (hboth entry hmem).2⟩

/-- The pattern and the conditions of an endpoint find what it selects. -/
theorem Endpoint.selects_iff {cx : Context} {g : Graph} {b : Binding} {var : String} {n : Nat}
    {e : Endpoint} (hfree : b var = none) (hvar : var ≠ rowAlias) :
    ((endpointPattern var e).fits cx g b n = true ∧
        ∀ c ∈ endpointConditions var e, c.holds cx g (b.bind var (.element (.node n))) = true) ↔
      e.Selects cx (b.property g rowAlias) g n := by
  have hadmits : b.admits (some var) (.node n) = true := by
    simp only [Binding.admits, Option.bind_some, hfree]
  have hrow : (b.bind var (.element (.node n))).property g rowAlias = b.property g rowAlias :=
    b.property_bind_of_ne (Ne.symm hvar) _ g
  rw [endpoint_accepts_iff hadmits (b.bind_self var _)
    (fun entry _ => Reference.cell_expr cx g b entry.2)
    (fun entry _ => by rw [Reference.cell_expr, hrow])]
  exact ⟨fun h => ⟨h.1, h.2⟩, fun h => ⟨h.label, h.fields⟩⟩

instance (cx : Context) (field : String → Json) (g : Graph) (e : Endpoint) (n : Nat) :
    Decidable (e.Selects cx field g n) :=
  decidable_of_iff (e.label ∈ g.labels n ∧ ∀ entry ∈ e.matcher,
      entry.2.mode.accepts cx.lower (g.prop (.node n) entry.1)
        (entry.2.value cx.params field) = some true)
    ⟨fun h => ⟨h.1, h.2⟩, fun h => ⟨h.label, h.fields⟩⟩

/-- The nodes that an endpoint selects, in the order of the graph. -/
def Endpoint.selected (cx : Context) (field : String → Json) (g : Graph) (e : Endpoint) :
    List Nat :=
  g.nodes.filter fun n => e.Selects cx field g n

@[simp] theorem Endpoint.mem_selected {cx : Context} {field : String → Json} {g : Graph}
    {e : Endpoint} {n : Nat} :
    n ∈ e.selected cx field g ↔ n ∈ g.nodes ∧ e.Selects cx field g n := by
  simp [selected]

theorem Endpoint.selected_agree {e : Endpoint} {cx cx' : Context} {field field' : String → Json}
    (hlower : cx'.lower = cx.lower)
    (hvalue : ∀ entry ∈ e.matcher,
      entry.2.value cx'.params field' = entry.2.value cx.params field) (g : Graph) :
    e.selected cx' field' g = e.selected cx field g := by
  apply List.filter_congr
  intro n _
  rw [decide_eq_decide]
  exact selects_agree hlower hvalue

/-- What an endpoint selects does not depend on the time. -/
theorem Endpoint.selected_now (cx : Context) (now : Int64) (field : String → Json) (g : Graph)
    (e : Endpoint) : e.selected { cx with now } field g = e.selected cx field g := by
  apply selected_agree
  · rfl
  · exact fun _ _ => rfl

/-- The pattern and the conditions of an endpoint find the nodes that it
    selects, one row for each. -/
theorem Endpoint.found_eq {cx : Context} {g : Graph} {b : Binding} {var : String} {e : Endpoint}
    (hfree : b var = none) (hvar : var ≠ rowAlias) :
    Path.found cx g b { start := endpointPattern var e } (endpointConditions var e) =
      (e.selected cx (b.property g rowAlias) g).map fun n => b.bind var (.element (.node n)) := by
  have hmatches : Path.matches cx g b { start := endpointPattern var e } =
      (g.nodes.filter fun n => (endpointPattern var e).fits cx g b n).map fun n =>
        b.bind var (.element (.node n)) := List.map_eq_flatMap.symm
  rw [Path.found, hmatches, List.filter_map, List.filter_filter]
  unfold selected
  congr 1
  apply List.filter_congr
  intro n _
  rw [Bool.eq_iff_iff, Bool.and_eq_true, decide_eq_true_eq, ← selects_iff hfree hvar, and_comm]
  simp only [Function.comp_apply, List.all_eq_true]

/-! ## Following links -/

/-- The arrow of a relationship leads from the owning node to the other. -/
theorem Graph.joins_iff {g : Graph} {l : Nat} {type : String} {d : Direction} {n m : Nat} :
    g.Joins l type d n m ↔
      l ∈ g.links ∧ g.type l = type ∧ (arrow d).near g l = n ∧ (arrow d).far g l = m := by
  cases d with
  | outward => rfl
  | inward =>
    unfold Graph.Joins arrow Arrow.near Arrow.far
    rw [and_comm (a := g.source l = m)]

/-- A hop along a relationship that binds no link bound before. -/
theorem RelPattern.fits_arrow_iff {g : Graph} {b : Binding} {var : Option String}
    (hfree : var.bind b = none) {type : String} {d : Direction} {n l : Nat} :
    ({ var, type, arrow := arrow d : RelPattern }).fits g b n l = true ↔
      g.type l = type ∧ (arrow d).near g l = n := by
  simp [RelPattern.fits, Binding.admits, hfree]

end GraphSync
