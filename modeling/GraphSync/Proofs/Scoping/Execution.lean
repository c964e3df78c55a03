import GraphSync.Proofs.Ingestion.Writing
import GraphSync.Proofs.Scoping.Rules

/-! # Scopes and rows

    Scopes are about the text of a query, bindings about a run of it.  A scope
    models a binding if it names just the variables that are bound, each with
    the kind of its cell.

    * `Clause.Exec.models` is the step: a clause that is scoped takes rows of
      its scope to rows of the scope after it.
    * `Query.WellScoped.models` is the run, and `Clause.ScopedIn.branch_models`
      that of a subquery: wherever it gets to, the next clause is scoped in
      what the rows bind.
    * So the rows have what it takes from them (`Query.WellScoped.supplied`). -/

namespace GraphSync

namespace Cypher

variable {cx : Context} {g : Graph} {Γ Δ : Scope} {b b' : Binding}

/-! ## Models -/

/-- A cell of a kind.  An optional match that finds nothing leaves null. -/
def Kind.Fits : Kind → Cell → Prop
  | .row, c | .column, c => ∃ v, c = .value v
  | .node, c => c = .value .null ∨ ∃ n, c = .element (.node n)
  | .link, c => c = .value .null ∨ ∃ l, c = .element (.link l)

/-- `Γ.Models b`: the variables of the scope are just the ones that are
    bound. -/
structure Scope.Models (Γ : Scope) (b : Binding) : Prop where
  fits : ∀ entry ∈ Γ, ∃ c, b entry.1 = some c ∧ entry.2.Fits c
  free : ∀ x, x ∉ Γ.names → b x = none

namespace Scope.Models

theorem empty : Scope.Models [] Binding.empty where
  fits := fun _ h => absurd h List.not_mem_nil
  free := fun _ _ => rfl

/-- A new variable comes with a new cell. -/
theorem bind (h : Γ.Models b) {x : String} (hx : x ∉ Γ.names) {kind : Kind} {c : Cell}
    (hc : kind.Fits c) : (Γ ++ [(x, kind)] : Scope).Models (b.bind x c) where
  fits := by
    rintro ⟨y, kind'⟩ hy
    rcases List.mem_append.1 hy with hy | hy
    · -- what has been bound keeps its cell, since the name is another
      have hne : y ≠ x := fun heq => hx (heq ▸ Scope.mem_names.2 ⟨kind', hy⟩)
      rw [Binding.bind_of_ne b hne]
      exact h.fits _ hy
    · cases List.mem_singleton.1 hy
      exact ⟨c, Binding.bind_self b x c, hc⟩
  free := by
    intro y hy
    rw [Scope.names_append, List.mem_append, not_or] at hy
    have hne : y ≠ x := fun heq => hy.2 (List.mem_singleton.2 heq)
    rw [Binding.bind_of_ne b hne]
    exact h.free y hy.1

theorem only (h : Γ.Models b) (vars : List String) : (Γ.keep vars).Models (b.only vars) where
  fits := by
    intro entry hentry
    obtain ⟨hentry, hvar⟩ := Scope.mem_keep.1 hentry
    rw [Binding.only, if_pos hvar]
    exact h.fits entry hentry
  free := by
    intro x hx
    unfold Binding.only
    split
    · next hvar => exact h.free x fun hx' => hx (Scope.mem_names_keep.2 ⟨hx', hvar⟩)
    · rfl

/-- The order of a scope is no matter. -/
theorem perm (h : Γ.Models b) (hperm : Γ.Perm Δ) : Δ.Models b where
  fits := fun entry hentry => h.fits entry (hperm.mem_iff.2 hentry)
  free := fun x hx => h.free x fun hx' => hx ((hperm.map _).mem_iff.1 hx')

theorem isSome_iff (h : Γ.Models b) {x : String} : (b x).isSome = true ↔ x ∈ Γ.names := by
  constructor
  · intro hx
    by_contra hfree
    rw [h.free x hfree] at hx
    cases hx
  · intro hx
    obtain ⟨kind, hx⟩ := Scope.mem_names.1 hx
    obtain ⟨c, hc, -⟩ := h.fits _ hx
    rw [hc]
    rfl

end Scope.Models

/-! ## Paths

    The variables of a path are bound one by one, so the scope grows on the
    way.  What the path takes over is in the scope before it. -/

/-- To bind a variable again to its element changes nothing. -/
theorem Binding.bind_of_element? {x : String} {e : Element} (h : b.element? x = some e) :
    b.bind x (.element e) = b := by
  funext y
  by_cases hy : y = x
  · rw [hy, Binding.bind_self, Binding.eq_of_element? h]
  · rw [Binding.bind_of_ne b hy]

theorem NodePattern.ScopedIn.models {n : NodePattern} (hn : n.ScopedIn Γ) (hsub : Γ ⊆ Δ)
    (hnew : n.binds.NewTo Δ) (hb : Δ.Models b) {m : Nat} (hm : b.admits n.var (.node m) = true) :
    (Δ ++ n.binds).Models (b.bindVar n.var (.element (.node m))) := by
  cases hvar : n.var with
  | none =>
    have hbinds : n.binds = [] := by simp [NodePattern.binds, hvar]
    rw [hbinds, List.append_nil]
    exact hb
  | some x =>
    cases hbare : n.isBare with
    | true =>
      -- the node is bound already, and binding it again changes nothing
      have hbinds : n.binds = [] := by simp [NodePattern.binds, hbare]
      have hx : (x, .node) ∈ Γ := hn.reused x (by simp [NodePattern.reused?, hbare, hvar])
      obtain ⟨c, hc, -⟩ := hb.fits _ (hsub hx)
      have helement : b.element? x = some (.node m) := by
        simpa [Binding.admits, hvar, hc, Binding.element?] using hm
      rw [hbinds, List.append_nil, Binding.bindVar_some, Binding.bind_of_element? helement]
      exact hb
    | false =>
      have hbinds : n.binds = [(x, .node)] := by simp [NodePattern.binds, hbare, hvar]
      rw [hbinds] at hnew ⊢
      exact hb.bind (Scope.newTo_singleton.1 hnew) (.inr ⟨m, rfl⟩)

theorem RelPattern.models {r : RelPattern} (hnew : r.binds.NewTo Δ) (hb : Δ.Models b) (l : Nat) :
    (Δ ++ r.binds).Models (b.bindVar r.var (.element (.link l))) := by
  unfold binds at hnew ⊢
  cases hvar : r.var with
  | none =>
    rw [Option.toList_none, List.map_nil, List.append_nil]
    exact hb
  | some x =>
    rw [hvar] at hnew
    exact hb.bind (Scope.newTo_singleton.1 hnew) (.inr ⟨l, rfl⟩)

theorem hopsBind_cons (rel : RelPattern) (node : NodePattern)
    (rest : List (RelPattern × NodePattern)) :
    hopsBind ((rel, node) :: rest) = rel.binds ++ (node.binds ++ hopsBind rest) := by
  rw [hopsBind, List.flatMap_cons, List.append_assoc]
  rfl

theorem models_of_mem_hopMatches {hops : List (RelPattern × NodePattern)} {n : Nat}
    {used : List Nat} (hnodes : ∀ h ∈ hops, h.2.ScopedIn Γ) (hsub : Γ ⊆ Δ)
    (hnew : (hopsBind hops).NewTo Δ) (hb : Δ.Models b) (h : b' ∈ hopMatches cx g hops n used b) :
    (Δ ++ hopsBind hops).Models b' := by
  induction hops generalizing Δ n used b with
  | nil =>
    rw [hopMatches, List.mem_singleton] at h
    subst h
    rw [hopsBind, List.flatMap_nil, List.append_nil]
    exact hb
  | cons hop rest ih =>
    obtain ⟨rel, node⟩ := hop
    simp only [hopMatches, List.mem_flatMap] at h
    obtain ⟨l, -, h⟩ := h
    split at h
    · next hfits =>
      rw [hopsBind_cons, Scope.newTo_append, Scope.newTo_append] at hnew
      obtain ⟨hrel, hnode, hrest⟩ := hnew
      obtain ⟨⟨hadmits, -⟩, -⟩ : (_ ∧ _) ∧ _ := by simpa [NodePattern.fits] using hfits
      -- the link is bound first, and its node in the scope that has the link
      have hb₁ := RelPattern.models hrel hb l
      have hb₂ := (hnodes _ List.mem_cons_self).models
        (List.subset_append_of_subset_left _ hsub) hnode hb₁ hadmits
      rw [hopsBind_cons, ← List.append_assoc, ← List.append_assoc]
      exact ih (fun h hh => hnodes h (List.mem_cons_of_mem _ hh))
        (List.subset_append_of_subset_left _ (List.subset_append_of_subset_left _ hsub)) hrest hb₂ h
    · cases h

theorem Path.ScopedIn.models_of_mem_matches {p : Path} (hp : p.ScopedIn Γ) (hb : Γ.Models b)
    (h : b' ∈ p.matches cx g b) : (Γ ++ p.binds).Models b' := by
  simp only [Path.matches, List.mem_flatMap, List.mem_filter] at h
  obtain ⟨n, ⟨-, hfits⟩, h⟩ := h
  obtain ⟨⟨hadmits, -⟩, -⟩ : (_ ∧ _) ∧ _ := by simpa [NodePattern.fits] using hfits
  obtain ⟨hstart, hhops⟩ := Scope.newTo_append.1 hp.binds
  have hb₁ := (hp.nodes _ List.mem_cons_self).models (List.Subset.refl Γ) hstart hb hadmits
  rw [Path.binds, ← List.append_assoc]
  exact models_of_mem_hopMatches hp.hops (List.subset_append_left _ _) hhops hb₁ h

/-! ## Rows without a match -/

theorem Binding.foldl_bind (vars : List String) (c : Cell) (b : Binding) (x : String) :
    (vars.foldl (fun b v => b.bind v c) b) x = if x ∈ vars then some c else b x := by
  induction vars generalizing b with
  | nil => rfl
  | cons v rest ih =>
    rw [List.foldl_cons, ih]
    by_cases hx : x = v
    · simp [hx]
    · simp [hx]

theorem Path.mem_vars_of_mem_binds {p : Path} {entry : String × Kind} (h : entry ∈ p.binds) :
    entry.1 ∈ p.vars := by
  rcases List.mem_append.1 h with h | h
  · exact List.mem_append_left _ (Option.mem_toList.2 (NodePattern.mem_binds h).1)
  · obtain ⟨hop, hhop, h⟩ := List.mem_flatMap.1 h
    refine List.mem_append_right _ (List.mem_flatMap.2 ⟨hop, hhop, ?_⟩)
    rcases List.mem_append.1 h with h | h
    · exact List.mem_append_left _ (Option.mem_toList.2 (RelPattern.mem_binds h).1)
    · exact List.mem_append_right _ (Option.mem_toList.2 (NodePattern.mem_binds h).1)

theorem NodePattern.ScopedIn.mem_names {n : NodePattern} (hn : n.ScopedIn Γ) {x : String}
    (hx : n.var = some x) : x ∈ Γ.names ∨ x ∈ n.binds.names := by
  cases hbare : n.isBare with
  | true =>
    exact .inl (Scope.mem_names.2 ⟨_, hn.reused x (by simp [NodePattern.reused?, hbare, hx])⟩)
  | false => exact .inr (by simp [NodePattern.binds, hbare, hx, Scope.names])

/-- A path takes its variables over, or binds them. -/
theorem Path.ScopedIn.mem_names {p : Path} (hp : p.ScopedIn Γ) {x : String} (hx : x ∈ p.vars) :
    x ∈ Γ.names ∨ x ∈ p.binds.names := by
  rw [Path.binds, Scope.names_append, List.mem_append]
  rcases List.mem_append.1 hx with hx | hx
  · exact ((hp.nodes _ List.mem_cons_self).mem_names (Option.mem_toList.1 hx)).imp_right .inl
  · obtain ⟨hop, hhop, hx⟩ := List.mem_flatMap.1 hx
    have hlater {y : String} (hy : y ∈ (hop.1.binds ++ hop.2.binds : Scope).names) :
        y ∈ (hopsBind p.hops).names := by
      obtain ⟨kind, hy⟩ := Scope.mem_names.1 hy
      exact Scope.mem_names.2 ⟨kind, List.mem_flatMap.2 ⟨hop, hhop, hy⟩⟩
    rw [Scope.names_append] at hlater
    rcases List.mem_append.1 hx with hx | hx
    · have hrel : x ∈ hop.1.binds.names := by
        simp [RelPattern.binds, Option.mem_toList.1 hx, Scope.names]
      exact .inr (.inr (hlater (List.mem_append_left _ hrel)))
    · exact ((hp.hops hop hhop).mem_names (Option.mem_toList.1 hx)).imp_right
        fun hx => .inr (hlater (List.mem_append_right _ hx))

/-- An optional match that finds nothing binds its new variables to null. -/
theorem Path.ScopedIn.models_null {p : Path} (hp : p.ScopedIn Γ) (hb : Γ.Models b) :
    (Γ ++ p.binds).Models ((p.vars.filter fun v => (b v).isNone).foldl
      (fun b v => b.bind v (.value .null)) b) where
  fits := by
    intro entry hentry
    rw [Binding.foldl_bind]
    rcases List.mem_append.1 hentry with hentry | hentry
    · -- a variable that is bound is not set to null
      obtain ⟨c, hc, hfits⟩ := hb.fits entry hentry
      refine ⟨c, ?_, hfits⟩
      rw [if_neg, hc]
      intro hmem
      simp [hc] at hmem
    · -- a new one is free, so it is
      have hfree : b entry.1 = none :=
        hb.free _ (hp.binds.fresh _ (Scope.mem_names.2 ⟨entry.2, hentry⟩))
      have hmem : entry.1 ∈ p.vars.filter fun v => (b v).isNone :=
        List.mem_filter.2 ⟨Path.mem_vars_of_mem_binds hentry, by rw [hfree]; rfl⟩
      rw [if_pos hmem]
      refine ⟨_, rfl, ?_⟩
      rcases Path.kind_of_mem_binds hentry with hkind | hkind
      · rw [hkind]
        exact .inl rfl
      · rw [hkind]
        exact .inl rfl
  free := by
    intro x hx
    rw [Scope.names_append, List.mem_append, not_or] at hx
    rw [Binding.foldl_bind, if_neg, hb.free x hx.1]
    intro hmem
    rcases hp.mem_names (List.mem_filter.1 hmem).1 with h | h
    · exact hx.1 h
    · exact hx.2 h

/-! ## Paths that are made -/

/-- To make a node binds it as to find it does. -/
theorem NodePattern.Creates.binding {p : NodePattern} {s s' : Store} {n : Nat}
    (h : p.Creates cx b s n b' s') :
    b.admits p.var (.node n) = true ∧ b' = b.bindVar p.var (.element (.node n)) := by
  unfold Creates at h
  unfold Binding.admits
  cases hvar : p.var with
  | none =>
    simp only [hvar, Option.bind_none] at h ⊢
    exact ⟨trivial, h.2.1⟩
  | some x =>
    cases hx : b x with
    | none =>
      simp only [hvar, Option.bind_some, hx] at h ⊢
      exact ⟨trivial, h.2.1⟩
    | some c =>
      simp only [hvar, Option.bind_some, hx] at h ⊢
      obtain ⟨helement, -, -, -, rfl, -⟩ := h
      have hcell : b'.element? x = some (.node n) := by
        rw [Binding.element?, hx]
        exact helement
      exact ⟨by simp [helement], (Binding.bind_of_element? hcell).symm⟩

theorem models_of_createsHops {hops : List (RelPattern × NodePattern)} {n : Nat} {s s' : Store}
    (hnodes : ∀ h ∈ hops, h.2.ScopedIn Γ) (hsub : Γ ⊆ Δ) (hnew : (hopsBind hops).NewTo Δ)
    (hb : Δ.Models b) (h : CreatesHops cx hops n b s b' s') : (Δ ++ hopsBind hops).Models b' := by
  induction hops generalizing Δ n b s with
  | nil =>
    obtain ⟨rfl, -⟩ := h
    rw [hopsBind, List.flatMap_nil, List.append_nil]
    exact hb
  | cons hop rest ih =>
    obtain ⟨rel, node⟩ := hop
    obtain ⟨m, b₁, s₁, hcreates, -, l, hl, hn, hm, h⟩ := h
    obtain ⟨hadmits, rfl⟩ := hcreates.binding
    -- the link is made after its node, and not before as it is found
    have hswap : (node.binds ++ (rel.binds ++ hopsBind rest)).Perm
        (hopsBind ((rel, node) :: rest)) := hopsBind_cons rel node rest ▸ List.perm_append_comm_assoc _ _ _
    have hnew' := hnew.perm hswap.symm
    rw [Scope.newTo_append, Scope.newTo_append] at hnew'
    obtain ⟨hnode, hrel, hrest⟩ := hnew'
    have hb₁ := (hnodes _ List.mem_cons_self).models hsub hnode hb hadmits
    have hb₂ := RelPattern.models hrel hb₁ l
    have hb₃ := ih (fun h hh => hnodes h (List.mem_cons_of_mem _ hh))
      (List.subset_append_of_subset_left _ (List.subset_append_of_subset_left _ hsub)) hrest hb₂ h
    rw [List.append_assoc, List.append_assoc] at hb₃
    exact hb₃.perm (hswap.append_left Δ)

theorem Path.ScopedIn.models_of_creates {p : Path} (hp : p.ScopedIn Γ) (hb : Γ.Models b)
    {s s' : Store} (h : p.Creates cx b s b' s') : (Γ ++ p.binds).Models b' := by
  obtain ⟨n, b₁, s₁, hcreates, h⟩ := h
  obtain ⟨hadmits, rfl⟩ := hcreates.binding
  obtain ⟨hstart, hhops⟩ := Scope.newTo_append.1 hp.binds
  have hb₁ := (hp.nodes _ List.mem_cons_self).models (List.Subset.refl Γ) hstart hb hadmits
  rw [Path.binds, ← List.append_assoc]
  exact models_of_createsHops hp.hops (List.subset_append_left _ _) hhops hb₁ h

/-! ## Clauses -/

theorem Limited.subset {limit : Option Expr} {rows kept : List Binding}
    (h : Limited cx g limit rows kept) : kept ⊆ rows := by
  cases limit with
  | none =>
    rw [show kept = rows from h]
    exact List.Subset.refl rows
  | some e =>
    obtain ⟨n, -, hkept, -⟩ := h
    exact hkept.subset

/-- The columns of a count have values. -/
theorem models_columns (items : List (Expr × String)) (v : Json) :
    Scope.Models (items.map fun item => (item.2, .column))
      fun column => if column ∈ items.map (·.2) then some (.value v) else none where
  fits := by
    intro entry hentry
    obtain ⟨item, hitem, rfl⟩ := List.mem_map.1 hentry
    exact ⟨_, if_pos (List.mem_map_of_mem hitem), v, rfl⟩
  free := by
    intro x hx
    rw [Scope.names, List.map_map] at hx
    exact if_neg hx

/-- A clause that is scoped takes rows of its scope to rows of the scope after
    it. -/
theorem Clause.Exec.models {c : Clause} (hc : c.ScopedIn Γ) {p p' : State}
    (hrows : ∀ b ∈ p.rows, Γ.Models b) (h : c.Exec cx p p') :
    ∀ b ∈ p'.rows, (c.after Γ).Models b := by
  cases c with
  | unwind list x =>
    rw [h]
    intro b' hb'
    obtain ⟨b, hb, hb'⟩ := List.mem_flatMap.1 hb'
    obtain ⟨v, -, rfl⟩ := List.mem_map.1 hb'
    exact (hrows b hb).bind (Scope.newTo_singleton.1 hc.2) ⟨v, rfl⟩
  | matching optional path conditions =>
    have hfound {b : Binding} (hb : b ∈ p.rows) : ∀ b' ∈ path.found cx p.store.graph b conditions,
        (Γ ++ path.binds).Models b' := fun b' hb' =>
      hc.1.models_of_mem_matches (hrows b hb) (Path.mem_found.1 hb').1
    rw [h]
    intro b' hb'
    obtain ⟨b, hb, hb'⟩ := List.mem_flatMap.1 hb'
    cases optional with
    | false => exact hfound hb b' hb'
    | true =>
      have hb' : b' ∈ path.foundOrNull cx p.store.graph b conditions := hb'
      unfold Path.foundOrNull at hb'
      split at hb'
      · rw [List.mem_singleton.1 hb']
        exact hc.1.models_null (hrows b hb)
      · exact hfound hb b' hb'
  | merge path onCreate =>
    refine eachRow_forall h fun b hb s out s' hmerges b' hb' => ?_
    rcases hmerges with ⟨-, rfl, -⟩ | ⟨-, b₁, s₁, hcreates, rfl, -⟩
    · exact hc.1.models_of_mem_matches (hrows b hb) hb'
    · rw [List.mem_singleton.1 hb']
      exact hc.1.models_of_creates (hrows b hb) hcreates
  | set items =>
    rw [eachRow_rows h fun _ _ _ _ hstep => hstep.2]
    exact hrows
  | withVars vars conditions limit =>
    intro b' hb'
    obtain ⟨b, hb, rfl⟩ := List.mem_map.1 (List.mem_filter.1 (Limited.subset h.2 hb')).1
    exact (hrows b hb).only vars
  | call branches =>
    rw [eachRow_rows h fun _ _ _ _ hstep => hstep.2]
    exact hrows
  | delete detach x =>
    rw [h.1]
    exact hrows
  | returning items =>
    obtain ⟨-, -, n, -, hout⟩ := h
    rw [hout]
    exact List.forall_mem_singleton.2 (models_columns items _)

/-- Clauses one after another do so, too. -/
theorem clausesExec.models {clauses : List Clause} (hc : clausesScopedIn Γ clauses) {p p' : State}
    (hrows : ∀ b ∈ p.rows, Γ.Models b) (h : clausesExec cx clauses p p') :
    ∀ b ∈ p'.rows, (clausesAfter Γ clauses).Models b := by
  induction clauses generalizing Γ p with
  | nil =>
    rw [h]
    exact hrows
  | cons c rest ih =>
    obtain ⟨m, hfirst, hrest⟩ := h
    exact ih hc.2 (Clause.Exec.models hc.1 hrows hfirst) hrest

/-! ## Wherever a run gets to -/

/-- The variables that an expression reads. -/
def Expr.vars : Expr → List String
  | .field _ => [rowAlias]
  | .property x _ | .var x => [x]
  | .toLower e => e.vars
  | .param _ | .timestamp | .countAll => []

/-- The variables of an assignment. -/
def SetItem.vars : SetItem → List String
  | .property x _ value => x :: value.vars
  | .labels x _ => [x]

/-- The variables that a clause takes from its rows: those that its own values
    read, those of the nodes it takes over, and those it assigns to, passes on
    or deletes.  The branches of a subquery have rows of their own. -/
def Clause.takes : Clause → List String
  | .unwind list _ => list.vars
  | .matching _ path _ | .merge path _ =>
    path.values.flatMap Expr.vars ++ path.nodes.filterMap NodePattern.reused?
  | .set items => items.flatMap SetItem.vars
  | .withVars vars _ _ => vars
  | .call _ => []
  | .delete _ x => [x]
  | .returning items => items.flatMap fun item => item.1.vars

/-- An expression that is scoped finds its variables in the scope. -/
theorem Expr.ScopedIn.vars_bound {e : Expr} (he : e.ScopedIn Γ) : ∀ x ∈ e.vars, x ∈ Γ.names := by
  induction e with
  | field name => exact List.forall_mem_singleton.2 (Scope.mem_names.2 ⟨_, he⟩)
  | property x key => exact List.forall_mem_singleton.2 (Scope.HasElement.mem_names he)
  | var x => exact List.forall_mem_singleton.2 he
  | toLower e ih => exact ih he
  | param _ | timestamp | countAll => exact fun _ h => absurd h List.not_mem_nil

theorem Path.ScopedIn.takes {p : Path} (hp : p.ScopedIn Γ) :
    ∀ x ∈ p.values.flatMap Expr.vars ++ p.nodes.filterMap NodePattern.reused?, x ∈ Γ.names := by
  intro x hx
  rcases List.mem_append.1 hx with hx | hx
  · obtain ⟨e, he, hx⟩ := List.mem_flatMap.1 hx
    exact (hp.values e he).vars_bound x hx
  · obtain ⟨n, hn, hx⟩ := List.mem_filterMap.1 hx
    exact Scope.mem_names.2 ⟨_, (hp.nodes n hn).reused x hx⟩

/-- So does a clause. -/
theorem Clause.ScopedIn.takes {c : Clause} (hc : c.ScopedIn Γ) : ∀ x ∈ c.takes, x ∈ Γ.names := by
  intro x hx
  cases c with
  | unwind list y => exact hc.1.vars_bound x hx
  | matching optional path conditions => exact hc.1.takes x hx
  | merge path onCreate => exact hc.1.takes x hx
  | set items =>
    obtain ⟨item, hitem, hx⟩ := List.mem_flatMap.1 hx
    have hscoped := hc item hitem
    cases item with
    | property y key value =>
      rcases List.mem_cons.1 hx with rfl | hx
      · exact hscoped.1.mem_names
      · exact hscoped.2.vars_bound x hx
    | labels y names =>
      rw [List.mem_singleton.1 hx]
      exact Scope.mem_names.2 ⟨_, hscoped⟩
  | withVars vars conditions limit => exact hc.1 x hx
  | call branches => cases hx
  | delete detach y =>
    rw [List.mem_singleton.1 hx]
    exact Scope.HasElement.mem_names hc
  | returning items =>
    obtain ⟨item, hitem, hx⟩ := List.mem_flatMap.1 hx
    exact (hc item hitem).vars_bound x hx

/-- Whichever of some clauses a run gets to, it is scoped in what the rows
    bind. -/
theorem clausesScopedIn.models {before after : List Clause} {c : Clause}
    (hclauses : clausesScopedIn Γ (before ++ c :: after)) {p p' : State}
    (hrows : ∀ b ∈ p.rows, Γ.Models b) (h : clausesExec cx before p p') :
    ∃ Δ : Scope, c.ScopedIn Δ ∧ ∀ b ∈ p'.rows, Δ.Models b := by
  obtain ⟨hbefore, hc, -⟩ := clausesScopedIn_append.1 hclauses
  exact ⟨_, hc, clausesExec.models hbefore hrows h⟩

/-- A query starts from one row that binds nothing. -/
theorem Query.WellScoped.models {before after : List Clause} {c : Clause}
    (hq : Query.WellScoped (before ++ c :: after)) {s : Store} {p : State}
    (h : clausesExec cx before { store := s, rows := [Binding.empty] } p) :
    ∃ Γ : Scope, c.ScopedIn Γ ∧ ∀ b ∈ p.rows, Γ.Models b :=
  clausesScopedIn.models hq (List.forall_mem_singleton.2 .empty) h

/-- A branch of a subquery starts from a row of the call. -/
theorem Clause.ScopedIn.branch_models {branches : List (List Clause)}
    (hcall : (Clause.call branches).ScopedIn Γ) {before after : List Clause} {c : Clause}
    (hbranch : before ++ c :: after ∈ branches) (hb : Γ.Models b) {s : Store} {p : State}
    (h : clausesExec cx before { store := s, rows := [b] } p) :
    ∃ Δ : Scope, c.ScopedIn Δ ∧ ∀ b ∈ p.rows, Δ.Models b :=
  clausesScopedIn.models (branchesScopedIn_iff.1 hcall _ hbranch).2
    (List.forall_mem_singleton.2 hb) h

/-- Whichever of some clauses a run from some rows gets to, all that the clause
    takes from its rows is bound. -/
def Supplied (clauses : List Clause) (rows : List Binding) : Prop :=
  ∀ before c after, clauses = before ++ c :: after → ∀ cx s p,
    clausesExec cx before { store := s, rows } p → ∀ b ∈ p.rows, ∀ x ∈ c.takes, (b x).isSome = true

/-- A query that is well scoped is supplied with what its clauses take, and so
    are the subqueries that it calls. -/
theorem Query.WellScoped.supplied {q : Query} (hq : q.WellScoped) :
    Supplied q [Binding.empty] ∧
      ∀ before branches after, q = before ++ .call branches :: after → ∀ cx s p,
        clausesExec cx before { store := s, rows := [Binding.empty] } p →
          ∀ b ∈ p.rows, ∀ branch ∈ branches, Supplied branch [b] := by
  constructor
  · rintro before c after rfl cx s p h b hb x hx
    obtain ⟨Γ, hc, hrows⟩ := hq.models h
    exact (hrows b hb).isSome_iff.2 (hc.takes x hx)
  · rintro before branches after rfl cx s p h b hb branch hbranch
    obtain ⟨Γ, hcall, hrows⟩ := hq.models h
    rintro inner c rest rfl cx' s' p' h' b' hb' x hx
    obtain ⟨Δ, hc, hrows'⟩ := hcall.branch_models hbranch (hrows b hb) h'
    exact (hrows' b' hb').isSome_iff.2 (hc.takes x hx)

end Cypher

end GraphSync
