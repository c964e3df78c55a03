import GraphSync.Proofs.Graph.Same
import GraphSync.Proofs.Ingestion.Links

/-! # Nodes that an ingestion writes

    The ingestion of a node schema merges nodes by their label and id, assigns
    to them, and draws the links of the schema from them.

    * `NodeSchema.Identifies` tells the nodes with an id, and
      `matches_pattern` and `creates_pattern_iff` what a merge finds and makes
      for a row.
    * `attach_rows`: before it draws, a branch leaves a row with each target of
      its relationship. -/

namespace GraphSync

open Cypher Plan

/-! ## Ids -/

namespace NodeSchema

/-- The id that a row gives its node. -/
def idOf (s : NodeSchema) (p : Parameters) (row : Json) : Json :=
  ((s.properties.get? idKey).map fun r => r.value p row.member).getD .null

/-- A node of the schema with an id that is equal to `v`. -/
structure HasId (s : NodeSchema) (v : Json) (x : NodeData) : Prop where
  label : s.label ∈ x.labels
  id    : (x.props idKey).same v = some true

/-- The nodes of the schema with an id in a graph. -/
def Identifies (s : NodeSchema) (g : Graph) (v : Json) (n : Nat) : Prop :=
  n ∈ g.nodes ∧ s.HasId v (g.node n)

variable {s : NodeSchema} {g g' : Graph} {v w : Json} {n : Nat}

theorem Identifies.of_same (h : s.Identifies g v n) (hsame : v.same w = some true) :
    s.Identifies g w n :=
  ⟨h.1, h.2.label, Json.same_trans h.2.id hsame⟩

/-- A node has one id. -/
theorem Identifies.same (h : s.Identifies g v n) (h' : s.Identifies g w n) :
    v.same w = some true :=
  Json.same_trans (Json.same_symm h.2.id) h'.2.id

/-- Nodes keep their ids. -/
theorem Identifies.extend {added : List String} {N : Nat → NodeData → Prop}
    {L : Nat → LinkData → Prop} (hextends : g.Extends added N L g') (h : s.Identifies g v n) :
    s.Identifies g' v n := by
  refine ⟨hextends.nodes h.1, hextends.labels n h.1 h.2.label, ?_⟩
  show (g'.prop (.node n) idKey).same v = some true
  rw [hextends.id n h.1]
  exact h.2.id

theorem Identifies.congr (hsame : g.SameNodes g') : s.Identifies g' v n ↔ s.Identifies g v n := by
  unfold Identifies
  rw [hsame.mem]
  constructor
  · rintro ⟨hn, h⟩
    exact ⟨hn, hsame.node n hn ▸ h⟩
  · rintro ⟨hn, h⟩
    exact ⟨hn, (hsame.node n hn).symm ▸ h⟩

/-! ## Merging nodes -/

/-- The pattern by which the node of a row is merged. -/
def pattern (s : NodeSchema) : NodePattern :=
  { var := some "i", labels := [s.label], props := s.identity }

/-- A row of a batch. -/
def unbound (row : Json) : Binding := Binding.empty.bind rowAlias (.value row)

/-- A row of a batch with its node. -/
def bound (row : Json) (n : Nat) : Binding := (unbound row).bind "i" (.element (.node n))

variable {cx : Context} {r : Reference} {row : Json}

instance (s : NodeSchema) (v : Json) (x : NodeData) : Decidable (s.HasId v x) :=
  decidable_of_iff (s.label ∈ x.labels ∧ (x.props idKey).same v = some true)
    ⟨fun h => ⟨h.1, h.2⟩, fun h => ⟨h.label, h.id⟩⟩

/-- The nodes with an id, in the order of the graph. -/
def nodesOf (s : NodeSchema) (g : Graph) (v : Json) : List Nat :=
  g.nodes.filter fun n => s.HasId v (g.node n)

@[simp] theorem mem_nodesOf : n ∈ s.nodesOf g v ↔ s.Identifies g v n := by
  simp [nodesOf, Identifies]

/-- What is found for a row are the nodes of its id. -/
theorem matches_pattern (hr : s.properties.get? idKey = some r) :
    Path.matches cx g (unbound row) { start := s.pattern } =
      (s.nodesOf g (s.idOf cx.params row)).map (bound row) := by
  have hfits (n : Nat) : s.pattern.fits cx g (unbound row) n = true ↔
      s.HasId (s.idOf cx.params row) (g.node n) := by
    have hfree : unbound row "i" = none := by rfl
    have hid : s.idOf cx.params row = r.value cx.params row.member := by simp [idOf, hr]
    have hrow : (unbound row).property g rowAlias = row.member :=
      Binding.property_bind_self _ _ _ _
    simp only [pattern, identity, hr, NodePattern.fits, Binding.admits, Option.bind_some, hfree,
      Option.toList_some, List.map_cons, List.map_nil, List.all_cons, List.all_nil, Bool.and_true,
      Bool.true_and, Bool.and_eq_true, decide_eq_true_eq, beq_iff_eq, Reference.cell_expr, hrow,
      Cell.json, ← hid]
    exact ⟨fun h => ⟨h.1, h.2⟩, fun h => ⟨h.label, h.id⟩⟩
  have hfilter : (g.nodes.filter fun n => s.pattern.fits cx g (unbound row) n) =
      s.nodesOf g (s.idOf cx.params row) := by
    apply List.filter_congr
    intro n _
    rw [Bool.eq_iff_iff, hfits, decide_eq_true_eq]
  rw [← hfilter]
  exact List.map_eq_flatMap.symm

theorem mem_matches_pattern (hr : s.properties.get? idKey = some r) {b' : Binding} :
    b' ∈ Path.matches cx g (unbound row) { start := s.pattern } ↔
      ∃ n, s.Identifies g (s.idOf cx.params row) n ∧ b' = bound row n := by
  rw [matches_pattern hr, List.mem_map]
  simp only [mem_nodesOf, eq_comm]

/-- The properties that the pattern gives a new node. -/
def idProps (s : NodeSchema) (p : Parameters) (row : Json) (key : String) : Json :=
  if key = idKey then s.idOf p row else .null

/-- To make the node of a row is to add one with its id, which has to be a
    value that can be stored, and not null. -/
theorem creates_pattern_iff (hr : s.properties.get? idKey = some r) {st st' : Store}
    {b' : Binding} :
    Path.Creates cx (unbound row) st { start := s.pattern } b' st' ↔
      (s.idOf cx.params row).isNull = false ∧ (s.idOf cx.params row).isStorable = true ∧
        ∃ n h, b' = bound row n ∧
          st' = { graph := st.graph.addNode n {s.label} (s.idProps cx.params row) h
                  written := st.written ++ [.node n] } := by
  have hprops : s.pattern.props = [(idKey, r.expr)] := by simp [pattern, identity, hr]
  have hcell : (r.expr.cell cx st.graph (unbound row)).json = s.idOf cx.params row := by
    have hrow : (unbound row).property st.graph rowAlias = row.member :=
      Binding.property_bind_self _ _ _ _
    simp [Reference.cell_expr, hrow, Cell.json, idOf, hr]
  have hgiven : s.pattern.given cx st.graph (unbound row) = s.idProps cx.params row := by
    funext key
    unfold NodePattern.given idProps
    rw [hprops, List.find?_cons, List.find?_nil]
    by_cases hkey : key = idKey
    · simp only [hkey, BEq.rfl, if_true]
      exact hcell
    · simp [hkey, beq_eq_false_iff_ne.2 (Ne.symm hkey)]
  have hfree : (s.pattern.var).bind (unbound row) = none := by rfl
  have hlabels : s.pattern.labels.toFinset = {s.label} := by simp [pattern]
  have hcreates (n : Nat) (b₁ : Binding) (st₁ : Store) :
      s.pattern.Creates cx (unbound row) st n b₁ st₁ ↔
        ((s.idOf cx.params row).isNull = false ∧ (s.idOf cx.params row).isStorable = true) ∧
          b₁ = bound row n ∧ ∃ h, st₁ =
            { graph := st.graph.addNode n {s.label} (s.idProps cx.params row) h
              written := st.written ++ [.node n] } := by
    unfold NodePattern.Creates
    rw [hfree, hgiven, hlabels, hprops]
    simp only [List.forall_mem_cons, List.not_mem_nil, false_imp_iff, implies_true, and_true,
      idProps, if_true]
    rfl
  unfold Path.Creates CreatesHops
  simp only [hcreates]
  constructor
  · rintro ⟨n, b₁, st₁, ⟨⟨hnull, hstorable⟩, rfl, h, rfl⟩, rfl, rfl⟩
    exact ⟨hnull, hstorable, n, h, rfl, rfl⟩
  · rintro ⟨hnull, hstorable, n, h, rfl, rfl⟩
    exact ⟨n, _, _, ⟨⟨hnull, hstorable⟩, rfl, h, rfl⟩, rfl, rfl⟩

/-! ## Assigning to nodes -/

/-- The fields that are assigned to a node, which is merged by its id. -/
def assigned (s : NodeSchema) : Fields := s.properties.filter fun entry => entry.1 != idKey

/-! ## Drawing the links of nodes -/

/-- A row with its node and the target of a relationship. -/
def target (row : Json) (n m : Nat) : Binding := (bound row n).bind "j" (.element (.node m))

theorem only_bound (row : Json) (n : Nat) : (bound row n).only ["i", rowAlias] = bound row n := by
  funext v
  by_cases hi : v = "i"
  · simp [Binding.only, hi]
  · by_cases hrow : v = rowAlias
    · simp [Binding.only, hrow]
    · simp [Binding.only, bound, unbound, hi, hrow, Binding.empty]

theorem only_target (row : Json) (n m : Nat) :
    (target row n m).only ["i", rowAlias, "j"] = target row n m := by
  funext v
  by_cases hi : v = "i"
  · simp [Binding.only, hi]
  · by_cases hrow : v = rowAlias
    · simp [Binding.only, hrow]
    · by_cases hj : v = "j"
      · simp [Binding.only, hj]
      · simp [Binding.only, target, bound, unbound, hi, hrow, hj, Binding.empty]

theorem target_joined (row : Json) (n m : Nat) : (target row n m).Joined "i" "j" n m :=
  ⟨by simp [target, bound], by simp [target], by simp [target, bound, unbound, rowAlias,
    Binding.empty]⟩

/-- A row with the targets of its node goes on once for each of them, and a row
    without a target does not go on. -/
theorem filter_found {rel : Relationship} (g : Graph) :
    ((Path.foundOrNull cx g (bound row n) { start := endpointPattern "j" rel.target }
      (endpointConditions "j" rel.target)).map (Binding.only · ["i", rowAlias, "j"])).filter
        (fun b => (Condition.isNotNull (.var "j")).holds cx g b) =
      (rel.target.selected cx row.member g).map (target row n) := by
  have hfree : bound row n "j" = none := by rfl
  have hrow : (bound row n).property g rowAlias = row.member :=
    (Binding.property_bind_of_ne _ (by decide) _ _).trans (Binding.property_bind_self _ _ _ _)
  have hfound : Path.found cx g (bound row n) { start := endpointPattern "j" rel.target }
      (endpointConditions "j" rel.target) =
        (rel.target.selected cx row.member g).map (target row n) := by
    rw [Endpoint.found_eq hfree (by decide), hrow]
    rfl
  unfold Path.foundOrNull
  rw [hfound]
  cases rel.target.selected cx row.member g with
  | nil =>
    have hnull : (Condition.isNotNull (.var "j")).holds cx g
        (((bound row n).bind "j" (.value .null)).only ["i", rowAlias, "j"]) = false := by
      simp [Condition.holds, Condition.truth, Expr.cell, Binding.only, Cell.isNull, Json.isNull]
    simp [Path.vars, endpointPattern, hfree, hnull]
  | cons m rest =>
    show (((m :: rest).map (target row n)).map (Binding.only · ["i", rowAlias, "j"])).filter _ =
      (m :: rest).map (target row n)
    rw [List.map_map, List.filter_eq_self.2]
    · exact List.map_congr_left fun m _ => only_target row n m
    · intro b hb
      obtain ⟨m, -, rfl⟩ := List.mem_map.1 hb
      show (Condition.isNotNull (.var "j")).holds cx g ((target row n m).only _) = true
      rw [only_target]
      simp [Condition.holds, Condition.truth, Expr.cell, target, Cell.isNull]

/-- The clauses before the merge leave a row with each target of the
    relationship.  They only read. -/
theorem attach_rows {rel : Relationship} {st : Store} {p₁ p₂ p₃ : State}
    (hwith : (Clause.withVars ["i", rowAlias] [] none).Exec cx
      { store := st, rows := [bound row n] } p₁)
    (hmatch : (Clause.matching true { start := endpointPattern "j" rel.target }
      (endpointConditions "j" rel.target)).Exec cx p₁ p₂)
    (hfilter : (Clause.withVars ["i", rowAlias, "j"] [.isNotNull (.var "j")] none).Exec cx p₂ p₃) :
    p₃ = { store := st
           rows := (rel.target.selected cx row.member st.graph).map (target row n) } := by
  obtain ⟨hstore₁, hrows₁⟩ := hwith
  obtain ⟨hstore₃, hrows₃⟩ := hfilter
  subst hmatch
  have hone : p₁.rows = [bound row n] := by
    rw [show p₁.rows = _ from hrows₁]
    simp [only_bound]
  change p₃.store = p₁.store at hstore₃
  rw [hstore₁] at hstore₃
  have hstore : p₃.store = st := hstore₃
  have hrows : p₃.rows = (rel.target.selected cx row.member st.graph).map (target row n) := by
    rw [show p₃.rows = _ from hrows₃, ← filter_found st.graph]
    simp only [hone, hstore₁, List.flatMap_cons, List.flatMap_nil, List.append_nil, if_true,
      List.all_cons, List.all_nil, Bool.and_true]
  rw [← hrows, ← hstore]

end NodeSchema

end GraphSync
