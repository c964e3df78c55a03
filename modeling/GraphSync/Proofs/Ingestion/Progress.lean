import GraphSync.Proofs.Ingestion.Outcome
import GraphSync.Proofs.Run.References
import Mathlib.Data.Fintype.EquivFin

/-! # Ingestions that run

    A statement fails when a merge is asked for a null property, or when a value
    is assigned that no property can hold.  Nothing else can go wrong: each
    clause of an ingestion has a lemma that says from which rows it goes on.

    * `Matchlink.ingestion_runs`: a matchlink only assigns.
    * `NodeSchema.ingestion_runs`: a node schema merges its nodes by ids too. -/

namespace GraphSync

open Cypher Plan

/-- Every value that some references give for the rows of a batch is one that a
    property can hold: null, a scalar or a list of scalars. -/
def Storable (p : Parameters) (batch : List Json) (refs : List Reference) : Prop :=
  ∀ r ∈ refs, ∀ row ∈ batch, (r.value p row.member).isStorable = true

namespace Cypher

variable {cx : Context} {v : String} {fields : Fields} {b : Binding} {rows : List Binding}
  {batch : List Json} {s : Store}

/-! ## Clauses that go on -/

/-- If each row can be carried out, and keeps what the next ones need, all can
    be. -/
theorem eachRow_runs {I : Store → Prop} {step : Binding → Store → List Binding → Store → Prop}
    (hstep : ∀ b ∈ rows, ∀ s, I s → ∃ out s', step b s out s' ∧ I s') (hs : I s) :
    ∃ out s', EachRow step rows s out s' := by
  induction rows generalizing s with
  | nil => exact ⟨[], s, rfl, rfl⟩
  | cons b rest ih =>
    obtain ⟨hfirst, hrest⟩ := List.forall_mem_cons.1 hstep
    obtain ⟨out₁, s₁, hb, hs₁⟩ := hfirst s hs
    obtain ⟨out₂, s', hlater⟩ := ih hrest hs₁
    exact ⟨out₁ ++ out₂, s', out₁, s₁, out₂, hb, hlater, rfl⟩

/-- Assignments to an element can be carried out when the values can be
    stored. -/
theorem applyItems_runs {x : Element} (hv : b v = some (.element x)) {row : Json}
    (hrow : b rowAlias = some (.value row))
    (hfields : ∀ r ∈ fields.references, (r.value cx.params row.member).isStorable = true)
    (s : Store) :
    ∃ s', applyItems cx b (setFields v fields) s = some s' := by
  induction fields generalizing s with
  | nil => exact ⟨s, rfl⟩
  | cons entry rest ih =>
    obtain ⟨key, r⟩ := entry
    obtain ⟨hfirst, hrest⟩ := List.forall_mem_cons.1 hfields
    have hfield : b.property s.graph rowAlias = row.member := by
      funext field
      simp only [Binding.property, hrow]
    have happly : (SetItem.property v key r.expr).apply cx b s =
        some { graph := s.graph.setProp x key (r.value cx.params row.member)
               written := s.written ++ [x] } := by
      simp only [SetItem.apply, hv, Reference.cell_expr, hfield, hfirst, if_true]
    obtain ⟨s', hs'⟩ := ih hrest
      { graph := s.graph.setProp x key (r.value cx.params row.member), written := s.written ++ [x] }
    refine ⟨s', ?_⟩
    show ((SetItem.property v key r.expr).apply cx b s).bind _ = some s'
    rw [happly]
    exact hs'

/-- The assignments of all rows. -/
theorem assigns_run (cx : Context) (v : String)
    (hrows : ∀ b ∈ rows, (∃ x, b v = some (.element x)) ∧
      ∃ row ∈ batch, b rowAlias = some (.value row))
    (hfields : Storable cx.params batch fields.references) (s : Store) :
    ∃ out s', Assigns cx v fields rows s out s' := by
  apply eachRow_runs (I := fun _ => True) _ trivial
  intro b hb s _
  obtain ⟨⟨x, hx⟩, row, hrow, hitem⟩ := hrows b hb
  obtain ⟨s', hs'⟩ := applyItems_runs hx hitem (fun r hr => hfields r hr row hrow) s
  exact ⟨[b], s', ⟨hs', rfl⟩, trivial⟩

/-- Variables can always be kept. -/
theorem withVars_runs (cx : Context) (vars : List String) (conditions : List Condition)
    (p : State) : ∃ p', (Clause.withVars vars conditions none).Exec cx p p' :=
  ⟨{ store := p.store
     rows := (p.rows.map (Binding.only · vars)).filter fun b =>
       conditions.all fun c => c.holds cx p.store.graph b }, rfl, rfl⟩

/-! ## Links -/

section Links

variable {left right : String} {rel : Relationship} {ks : List Stroke} {k : Stroke}

/-- A merge of a link between nodes of the graph can be carried out. -/
theorem mergesLink_runs (cx : Context) (hfits : Fits left right rel k b)
    (hn : k.node ∈ s.graph.nodes) (hm : k.other ∈ s.graph.nodes) :
    ∃ out s', (mergePath left rel right).Merges cx [setFirstSeen "r"] b s out s' := by
  by_cases hnone : (mergePath left rel right).matches cx s.graph b = []
  · obtain ⟨l, hnew⟩ := Infinite.exists_notMem_finset s.graph.links.toFinset
    have hnew : l ∉ s.graph.links := by simpa using hnew
    have hends : (rel.ends k.node k.other).source ∈ s.graph.nodes ∧
        (rel.ends k.node k.other).target ∈ s.graph.nodes := by
      unfold Relationship.ends
      cases rel.direction with
      | outward => exact ⟨hn, hm⟩
      | inward => exact ⟨hm, hn⟩
    have hcreates : (mergePath left rel right).Creates cx b s _ _ :=
      (creates_mergePath_iff hfits.joined).2 ⟨l, hnew, hends.1, hends.2, rfl, rfl⟩
    exact ⟨_, _, .inr ⟨hnone, _, _, hcreates, rfl, applyItems_firstSeen (Binding.bind_self _ _ _)⟩⟩
  · exact ⟨_, s, .inl ⟨hnone, rfl, rfl⟩⟩

/-- The two clauses that draw links can be carried out for strokes between nodes
    of the graph. -/
theorem drawsLinks_run (hapart : Apart left right) {f : Stroke → Binding}
    (hfits : ∀ k ∈ ks, Fits left right rel k (f k))
    (hnodes : ∀ k ∈ ks, k.node ∈ s.graph.nodes ∧ k.other ∈ s.graph.nodes)
    (hrows : ∀ k ∈ ks, k.row ∈ batch)
    (hfields : Storable cx.params batch rel.properties.references) :
    ∃ p, clausesExec cx [mergeLink left rel right, .set (setFields "r" rel.properties)]
      { store := s, rows := ks.map f } p := by
  -- merges leave the nodes, so the ends are there for the next one
  have hmerges : ∃ out s', EachRow ((mergePath left rel right).Merges cx [setFirstSeen "r"])
      (ks.map f) s out s' := by
    apply eachRow_runs (I := fun s' => s'.graph.nodes = s.graph.nodes) _ rfl
    intro b hb s₁ hs₁
    obtain ⟨k, hk, rfl⟩ := List.mem_map.1 hb
    obtain ⟨hn, hm⟩ := hnodes k hk
    obtain ⟨out, s₂, hstep⟩ := mergesLink_runs cx (hfits k hk) (hs₁ ▸ hn) (hs₁ ▸ hm)
    exact ⟨out, s₂, hstep, (merges_stroke hapart (hfits k hk) hstep).1.nodes.trans hs₁⟩
  obtain ⟨out, s₁, hmerge⟩ := hmerges
  have hcovers : List.Forall₂ (Fits left right rel) ks (ks.map f) :=
    List.forall₂_map_right_iff.2 (List.forall₂_same.2 hfits)
  obtain ⟨-, blocks, rfl, hblocks⟩ := merges_strokes hapart hcovers hmerge
  have hlinks : ∀ b ∈ blocks.flatten, (∃ x, b "r" = some (.element x)) ∧
      ∃ row ∈ batch, b rowAlias = some (.value row) := by
    intro b hb
    obtain ⟨k, hk, block, ⟨-, hcover⟩, hb⟩ := IsLast.exists_block hblocks hb
    obtain ⟨hrow, l, -, hr, -⟩ := hcover.bound b hb
    exact ⟨⟨_, hr⟩, k.row, hrows k hk, hrow⟩
  obtain ⟨out, s', hassign⟩ := assigns_run cx "r" hlinks hfields s₁
  exact ⟨{ store := s', rows := out }, { store := s₁, rows := blocks.flatten }, hmerge,
    { store := s', rows := out }, hassign, rfl⟩

end Links

end Cypher

/-- An ingestion of a matchlink runs on every graph. -/
theorem Matchlink.ingestion_runs {link : Matchlink} {cx : Context} {batch : List Json}
    (hbatch : cx.params.value rowsParam = .array batch)
    (hfields : Storable cx.params batch link.relationship.properties.references) (s : Store) :
    ∃ s' rows, link.ingestion.Exec cx s s' rows := by
  have hlinks : ∃ p, clausesExec cx [mergeLink "src" link.relationship "tgt",
      .set (setFields "r" link.relationship.properties)]
      { store := s
        rows := (link.strokes cx s.graph batch).map fun k =>
          Matchlink.bound k.row k.node k.other } p := by
    apply drawsLinks_run ⟨by decide, by decide, by decide⟩ fits_strokes _ _ hfields
    · intro k hk
      exact ⟨(mem_strokes.1 hk).2.2.source_mem, (mem_strokes.1 hk).2.2.target_mem⟩
    · exact fun k hk => (mem_strokes.1 hk).2.1
  obtain ⟨p, hlinks⟩ := hlinks
  refine ⟨p.store, p.rows, _, rfl, _, rfl, _, rfl, ?_⟩
  simp only [Expr.cell, hbatch, Cell.json, unwound, Bool.false_eq_true, if_false,
    List.flatMap_cons, List.flatMap_nil, List.append_nil, rows_eq_strokes]
  exact hlinks

namespace NodeSchema

/-- The references that feed what an ingestion assigns. -/
def feeds (s : NodeSchema) : List Reference :=
  s.properties.references ++ s.relationships.flatMap fun rel => rel.properties.references

variable {s : NodeSchema} {cx : Context} {r : Reference} {row : Json} {batch : List Json}
  {st : Store} {n : Nat} {rel : Relationship} {rels : List Relationship}

/-- The merges of a batch run when every id can be merged. -/
theorem merges_run (hr : s.properties.get? idKey = some r)
    (hids : ∀ row ∈ batch, (s.idOf cx.params row).isNull = false ∧
      (s.idOf cx.params row).isStorable = true) (st : Store) :
    ∃ out st', EachRow (Path.Merges cx { start := s.pattern } [setFirstSeen "i"])
      (batch.map unbound) st out st' := by
  apply eachRow_runs (I := fun _ => True) _ trivial
  intro b hb st _
  obtain ⟨row, hrow, rfl⟩ := List.mem_map.1 hb
  obtain ⟨hnull, hstorable⟩ := hids row hrow
  by_cases hnone : Path.matches cx st.graph (unbound row) { start := s.pattern } = []
  · obtain ⟨n, hnew⟩ := Infinite.exists_notMem_finset st.graph.nodes.toFinset
    have hnew : n ∉ st.graph.nodes := by simpa using hnew
    have hcreates : Path.Creates cx (unbound row) st { start := s.pattern } _ _ :=
      (creates_pattern_iff hr).2 ⟨hnull, hstorable, n, hnew, rfl, rfl⟩
    exact ⟨_, _, .inr ⟨hnone, _, _, hcreates, rfl, applyItems_firstSeen (x := .node n) (by rfl)⟩,
      trivial⟩
  · exact ⟨_, st, .inl ⟨hnone, rfl, rfl⟩, trivial⟩

/-- Labels can be added to the nodes of all rows. -/
theorem labels_run {names : List String} {p : State}
    (hnodes : ∀ b ∈ p.rows, ∃ n, b "i" = some (.element (.node n))) :
    ∃ q, clausesExec cx (if names.isEmpty then [] else [.set [.labels "i" names]]) p q := by
  by_cases hnone : names.isEmpty = true
  · rw [if_pos hnone]
    exact ⟨p, rfl⟩
  · rw [if_neg hnone]
    have hrows : ∃ out st', EachRow (fun b s out s' =>
        applyItems cx b [.labels "i" names] s = some s' ∧ out = [b]) p.rows p.store out st' := by
      apply eachRow_runs (I := fun _ => True) _ trivial
      intro b hb st _
      obtain ⟨n, hn⟩ := hnodes b hb
      have happly : applyItems cx b [.labels "i" names] st =
          some { graph := st.graph.addLabels n names, written := st.written ++ [.node n] } := by
        simp only [applyItems, SetItem.apply, hn, Option.bind_some]
      exact ⟨[b], _, ⟨happly, rfl⟩, trivial⟩
    obtain ⟨out, st', h⟩ := hrows
    exact ⟨{ store := st', rows := out }, { store := st', rows := out }, h, rfl⟩

/-- The first clauses of an ingestion run when every id can be merged. -/
theorem populates_run (hr : s.properties.get? idKey = some r)
    (hbatch : cx.params.value rowsParam = .array batch)
    (hids : ∀ row ∈ batch, (s.idOf cx.params row).isNull = false ∧
      (s.idOf cx.params row).isStorable = true)
    (hfields : Storable cx.params batch s.assigned.references) (st : Store) :
    ∃ p, clausesExec cx
      ([unwindRows, .merge { start := s.pattern } [setFirstSeen "i"],
        .set (setFields "i" s.assigned)]
        ++ (if s.extraLabels.isEmpty then [] else [.set [.labels "i" s.extraLabels]]))
      { store := st, rows := [Binding.empty] } p := by
  obtain ⟨out, st₁, hmerge⟩ := merges_run hr hids st
  obtain ⟨-, rfl⟩ := merges_batch hr hmerge
  -- the rows bind a node and a row of the batch, which is all that they need
  have hbinds : ∀ b ∈ s.spread cx.params st₁.graph batch,
      (∃ n, b "i" = some (.element (.node n))) ∧ ∃ row ∈ batch, b rowAlias = some (.value row) := by
    intro b hb
    obtain ⟨row, hrow, n, -, rfl⟩ := mem_spread.1 hb
    exact ⟨⟨n, by simp [bound]⟩, row, hrow, by simp [bound, unbound, rowAlias]⟩
  have helements : ∀ b ∈ s.spread cx.params st₁.graph batch,
      (∃ x, b "i" = some (.element x)) ∧ ∃ row ∈ batch, b rowAlias = some (.value row) := by
    intro b hb
    obtain ⟨⟨n, hn⟩, hrow⟩ := hbinds b hb
    exact ⟨⟨_, hn⟩, hrow⟩
  obtain ⟨out, st₂, hassign⟩ := assigns_run cx "i" helements hfields st₁
  obtain rfl : out = _ := Assigns.rows hassign
  obtain ⟨p, hlabels⟩ : ∃ p, clausesExec cx
      (if s.extraLabels.isEmpty then [] else [.set [.labels "i" s.extraLabels]])
      { store := st₂, rows := s.spread cx.params st₁.graph batch } p :=
    labels_run fun b hb => (hbinds b hb).1
  refine ⟨p, clausesExec_append.2 ⟨_, ⟨_, rfl, { store := st₁, rows := _ }, ?_,
    { store := st₂, rows := _ }, hassign, rfl⟩, hlabels⟩⟩
  simp only [Clause.Exec, Expr.cell, hbatch, Cell.json, unwound, List.flatMap_cons,
    List.flatMap_nil, List.append_nil]
  exact hmerge

/-- One branch runs for a row whose node is in the graph. -/
theorem attach_run (hrow : row ∈ batch) (hn : n ∈ st.graph.nodes)
    (hfields : Storable cx.params batch rel.properties.references) :
    ∃ p, clausesExec cx (attach rel) { store := st, rows := [bound row n] } p := by
  have hlinks : ∃ p, clausesExec cx [mergeLink "i" rel "j", .set (setFields "r" rel.properties)]
      { store := st
        rows := (relStrokes cx st.graph row n rel).map fun k =>
          target k.row k.node k.other } p := by
    apply drawsLinks_run ⟨by decide, by decide, by decide⟩ fits_relStrokes _ _ hfields
    · intro k hk
      obtain ⟨m, hm, rfl⟩ := List.mem_map.1 hk
      exact ⟨hn, (Endpoint.mem_selected.1 hm).1⟩
    · intro k hk
      obtain ⟨m, -, rfl⟩ := List.mem_map.1 hk
      exact hrow
  obtain ⟨p, hlinks⟩ := hlinks
  obtain ⟨p₁, hwith⟩ := withVars_runs cx ["i", rowAlias] []
    { store := st, rows := [bound row n] }
  obtain ⟨p₂, hmatch⟩ : ∃ p₂, (Clause.matching true { start := endpointPattern "j" rel.target }
      (endpointConditions "j" rel.target)).Exec cx p₁ p₂ := ⟨_, rfl⟩
  obtain ⟨p₃, hfilter⟩ := withVars_runs cx ["i", rowAlias, "j"] [.isNotNull (.var "j")] p₂
  refine ⟨p, p₁, hwith, p₂, hmatch, p₃, hfilter, ?_⟩
  rw [attach_rows hwith hmatch hfilter, rows_eq_relStrokes]
  exact hlinks

/-- All branches run. -/
theorem branches_run (hnodup : ∀ rel ∈ rels, rel.properties.keys.Nodup) (hrow : row ∈ batch)
    (hn : n ∈ st.graph.nodes)
    (hfields : ∀ rel ∈ rels, Storable cx.params batch rel.properties.references) :
    ∃ st', branchesExec cx (rels.map attach) (bound row n) st st' := by
  induction rels generalizing st with
  | nil => exact ⟨st, rfl⟩
  | cons rel rest ih =>
    obtain ⟨hrel, hrest⟩ := List.forall_mem_cons.1 hfields
    obtain ⟨hnodup, hothers⟩ := List.forall_mem_cons.1 hnodup
    obtain ⟨p, hbranch⟩ := attach_run hrow hn hrel
    -- a branch leaves the nodes
    have hkept : n ∈ p.store.graph.nodes := by
      rw [(attach_strokes hnodup hbranch).nodes]
      exact hn
    obtain ⟨st', hlater⟩ := ih hothers hkept hrest
    exact ⟨st', p, hbranch, hlater⟩

/-- The last clauses of an ingestion run for rows whose nodes are in the
    graph. -/
theorem draws_run (hnodup : ∀ rel ∈ s.relationships, rel.properties.keys.Nodup)
    (hfields : ∀ rel ∈ s.relationships, Storable cx.params batch rel.properties.references)
    (st : Store) :
    ∃ q, clausesExec cx
      (if s.relationships.isEmpty then []
        else [.withVars ["i", rowAlias] [] none, .call (s.relationships.map attach)])
      { store := st, rows := s.spread cx.params st.graph batch } q := by
  by_cases hnone : s.relationships.isEmpty = true
  · rw [if_pos hnone]
    exact ⟨_, rfl⟩
  · rw [if_neg hnone]
    obtain ⟨p, hstore, hrows⟩ := withVars_runs cx ["i", rowAlias] []
      { store := st, rows := s.spread cx.params st.graph batch }
    have hcall : ∃ out st', EachRow (fun b s₁ out s₂ =>
        branchesExec cx (s.relationships.map attach) b s₁ s₂ ∧ out = [b])
        p.rows p.store out st' := by
      apply eachRow_runs (I := fun st' => st'.graph.nodes = st.graph.nodes) _ (by rw [hstore])
      intro b hb st₁ hst₁
      -- the row is one of the batch with a node of its id
      obtain ⟨⟨b₀, hb₀, rfl⟩, -⟩ := mem_rows_withVars ⟨hstore, hrows⟩ hb
      obtain ⟨row, hrow, n, hn, rfl⟩ := mem_spread.1 hb₀
      rw [only_bound]
      obtain ⟨st₂, hbranches⟩ := branches_run hnodup hrow (hst₁ ▸ hn.1) hfields
      exact ⟨[bound row n], st₂, ⟨hbranches, rfl⟩,
        (branches_strokes hnodup hbranches).nodes.trans hst₁⟩
    obtain ⟨out, st', hcall⟩ := hcall
    exact ⟨{ store := st', rows := out }, p, ⟨hstore, hrows⟩, { store := st', rows := out },
      hcall, rfl⟩

/-- An ingestion of a node schema runs on every graph when no id is null. -/
theorem ingestion_runs (hs : s.Built) (hbatch : cx.params.value rowsParam = .array batch)
    (hfields : Storable cx.params batch s.feeds)
    (hids : ∀ row ∈ batch, (s.idOf cx.params row).isNull = false) (st : Store) :
    ∃ st' rows, s.ingestion.Exec cx st st' rows := by
  obtain ⟨r, hr⟩ := hs.exists_id
  have hnodup : ∀ rel ∈ s.relationships, rel.properties.keys.Nodup := by
    intro rel hrel
    exact (hs.relationships rel hrel).recorded.nodup
  have hprops : Storable cx.params batch s.properties.references :=
    fun r hr => hfields r (List.mem_append_left _ hr)
  have hmerged : ∀ row ∈ batch, (s.idOf cx.params row).isNull = false ∧
      (s.idOf cx.params row).isStorable = true := by
    intro row hrow
    have hmem : (idKey, r) ∈ s.properties := (Fields.get?_eq_some_iff hs.checked.nodup).1 hr
    have hvalue := hprops r (List.mem_map_of_mem hmem) row hrow
    exact ⟨hids row hrow, by simpa [idOf, hr] using hvalue⟩
  have hassigned : Storable cx.params batch s.assigned.references := by
    intro r hr
    obtain ⟨entry, hentry, rfl⟩ := List.mem_map.1 hr
    exact hprops _ (List.mem_map_of_mem (List.mem_filter.1 hentry).1)
  have hlinks : ∀ rel ∈ s.relationships, Storable cx.params batch rel.properties.references := by
    intro rel hrel r hr
    exact hfields r (List.mem_append_right _ (List.mem_flatMap.2 ⟨rel, hrel, hr⟩))
  obtain ⟨p, hnodes⟩ := populates_run hr hbatch hmerged hassigned st
  obtain ⟨-, hrows⟩ := populates hr hs.checked.nodup hbatch hnodes
  obtain ⟨q, hdraws⟩ := draws_run hnodup hlinks p.store
  have hstate : p = { store := p.store, rows := s.spread cx.params p.store.graph batch } := by
    rw [← hrows]
  rw [← hstate] at hdraws
  exact ⟨q.store, q.rows, clausesExec_append.2 ⟨p, hnodes, hdraws⟩⟩

end NodeSchema

end GraphSync
