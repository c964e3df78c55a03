import GraphSync.Proofs.Run.References
import GraphSync.Proofs.Run.Refusal

/-! # What statements are sent with

    A run sends a statement with the parameters of the caller, and adds what it
    fills in itself: the rows of a batch, or the size of a window.  It does not
    ask the caller for parameters of these two names, in no kind of statement.

    * `parameters_are_bound`: a schema whose references leave the two names
      alone never sends a statement with a parameter unbound or in place of the
      caller's, and these are the only schemas that do not.
    * `windowed_parameter_is_unbound`: the checks on schemas let the others
      through. -/

namespace GraphSync

open Cypher Plan

/-! ## Bound parameters -/

/-- `call.Binds p names q`: the call sends the query with a value for each
    parameter that it reads, and under each of the names with the value that
    the caller has given in `p`. -/
structure Call.Binds (p : Parameters) (names : List String) (q : Query) (call : Call) : Prop where
  text  : call.statement.text = q.text
  bound : ∀ name ∈ q.parameters, call.statement.params.contains name = true
  own   : ∀ name ∈ names, ∃ v, p.find? name = some v ∧
    call.statement.params.find? name = some v

/-- `e.Reports p`: the error tells the caller of a parameter that `p` lacks.  A
    scope marker that is null counts as lacking. -/
def RunError.Reports (p : Parameters) : RunError → Prop
  | .missingParameter _ name => p.contains name = false
  | .missingScopeParameter _ marker => ∀ v, p.find? marker = some v → v.isNull = true
  | .invalidRow _ _ => False

/-- The calls of a load make sure of indexes, or send the ingestion with all
    that it reads.  A load that lacks what a reference reads is refused. -/
structure Schema.LoadBinds (schema : Schema) : Prop where
  sent : ∀ {rows p o load}, schema.load rows p o = .ok load →
    ∀ {ε : Type} (replies : List (Reply ε)), ∀ call ∈ (play load.stages replies).calls,
      (∃ i : Index, call = .run { text := i.text, params := .empty }) ∨
        call.Binds p (parameterNames schema.references) schema.ingestion
  refused : ∀ {rows : List Row} {p o}, rows ≠ [] →
    ∀ name ∈ parameterNames schema.references, p.contains name = false →
      ∃ e, schema.load rows p o = .error e ∧ e.Reports p

/-- The same for the cleanup of a node schema, which asks for the parameters
    that find the owner. -/
structure NodeSchema.CleanupBinds (s : NodeSchema) : Prop where
  sent : ∀ {p job}, CleanupJob.ofNodeSchema s p = .ok job →
    ∀ {ε : Type} o (replies : List (Reply ε)), ∀ call ∈ (play (job.stages o) replies).calls,
      ∃ q ∈ s.cleanup, call.Binds p (parameterNames s.ownerReferences) q
  refused : ∀ {p}, ∀ name ∈ parameterNames s.ownerReferences, p.contains name = false →
    ∃ e, CleanupJob.ofNodeSchema s p = .error e ∧ e.Reports p

/-- The same for the cleanup of a matchlink, which is given all its parameters
    one by one. -/
def Matchlink.CleanupBinds (m : Matchlink) : Prop :=
  ∀ scopeLabel scopeId tag {ε : Type} o (replies : List (Reply ε)),
    ∀ call ∈ (play ((CleanupJob.ofMatchlink m scopeLabel scopeId tag).stages o) replies).calls,
      call.Binds (CleanupJob.ofMatchlink m scopeLabel scopeId tag).params
        [updateTagParam, scopeLabelKey, scopeIdKey] m.cleanup

/-- The same for the cleanup of a schema. -/
def Schema.CleanupBinds : Schema → Prop
  | .node s => s.CleanupBinds
  | .matchlink m => m.CleanupBinds

/-- No statement of a schema is sent with a parameter unbound or misbound. -/
structure Schema.BindsParameters (schema : Schema) : Prop where
  load    : schema.LoadBinds
  cleanup : schema.CleanupBinds

/-- A schema whose references leave alone what a run fills in itself. -/
def Schema.LeavesFilledIn (schema : Schema) : Prop :=
  ∀ name ∈ parameterNames schema.references, name ≠ rowsParam ∧ name ≠ limitParam

/-! ## Statements -/

/-- Only calls of the stages are made, whatever the replies are. -/
theorem mem_play_calls {ε : Type} {stages : List Stage} {replies : List (Reply ε)} {call : Call}
    (h : call ∈ (play stages replies).calls) : ∃ stage ∈ stages, stage.call = call := by
  -- each reply ends one call, so the induction is on the replies
  induction replies generalizing stages with
  | nil =>
    cases stages with
    | nil => cases h
    | cons stage rest => cases h
  | cons reply replies ih =>
    cases stages with
    | nil => cases h
    | cons stage rest =>
      cases reply with
      | error e => exact ⟨stage, List.mem_cons_self, (List.mem_singleton.1 h).symm⟩
      | ok count =>
        rcases List.mem_cons.1 h with rfl | h
        · exact ⟨stage, List.mem_cons_self, rfl⟩
        · obtain ⟨other, hother, hcall⟩ := ih h
          -- what is left is the rest, or all stages once more
          split at hother
          · exact ⟨other, List.mem_cons_of_mem _ hother, hcall⟩
          · exact ⟨other, hother, hcall⟩

/-- A statement that fills in one name binds all that its query reads, if the
    caller has given the rest, and does not touch the names that the references
    read. -/
theorem Call.binds_of_filled {p : Parameters} {names : List String} {q : Query} {call : Call}
    {filled : String} {value : Json} (htext : call.statement.text = q.text)
    (hparams : call.statement.params = p.insert filled value)
    (hgiven : ∀ name ∈ clauseParams q, name ≠ filled → p.contains name = true)
    (hnames : ∀ name ∈ names, name ≠ filled ∧ p.contains name = true) :
    call.Binds p names q where
  text := htext
  bound := by
    intro name hname
    unfold Dictionary.contains
    rw [hparams]
    by_cases hfilled : name = filled
    · subst hfilled
      rw [Dictionary.find?_insert_self]
      rfl
    · rw [Dictionary.find?_insert_of_ne _ hfilled]
      exact hgiven name (mem_sortedNames.1 hname) hfilled
  own := by
    intro name hname
    obtain ⟨hne, hcontains⟩ := hnames name hname
    obtain ⟨v, hv⟩ := Option.isSome_iff_exists.1 hcontains
    refine ⟨v, hv, ?_⟩
    rw [hparams, Dictionary.find?_insert_of_ne _ hne, hv]

/-! ## Loads -/

namespace Schema

variable {schema : Schema}

/-- What a reference reads is asked for, unless the run fills it in. -/
theorem mem_callerParameters_of_reads (hschema : schema.Built) {name : String}
    (hname : name ∈ parameterNames schema.references)
    (hfree : name ≠ rowsParam ∧ name ≠ limitParam) :
    name ∈ callerParameters schema.ingestion :=
  mem_callerParameters.2 ⟨(mem_clauseParams_ingestion hschema).2 (.inr hname), hfree⟩

theorem load_sent (hschema : schema.Built) (hfree : schema.LeavesFilledIn) {rows : List Row}
    {p : Parameters} {o : SyncOptions} {load : Load} (hload : schema.load rows p o = .ok load)
    {ε : Type} (replies : List (Reply ε)) : ∀ call ∈ (play load.stages replies).calls,
      (∃ i : Index, call = .run { text := i.text, params := .empty }) ∨
        call.Binds p (parameterNames schema.references) schema.ingestion := by
  intro call hcall
  obtain ⟨stage, hstage, rfl⟩ := mem_play_calls hcall
  rcases schema.load_ok hload with ⟨-, hstages⟩ | ⟨indexes, checked, -, hgiven, hstages⟩
  · rw [hstages] at hstage
    cases hstage
  rw [hstages, List.mem_append] at hstage
  rcases hstage with hindex | hbatch
  · obtain ⟨i, -, rfl⟩ := List.mem_map.1 hindex
    exact .inl ⟨i, rfl⟩
  · obtain ⟨batch, -, rfl⟩ := List.mem_map.1 hbatch
    have hnames : ∀ name ∈ parameterNames schema.references,
        name ≠ rowsParam ∧ p.contains name = true := fun name hname =>
      ⟨(hfree name hname).1,
        hgiven name (mem_callerParameters_of_reads hschema hname (hfree name hname))⟩
    refine .inr (Call.binds_of_filled rfl rfl ?_ hnames)
    intro name hname hne
    rcases (mem_clauseParams_ingestion hschema).1 hname with heq | hreads
    · exact absurd heq hne
    · exact (hnames name hreads).2

end Schema

theorem Parameters.Unset.reports {p : Parameters} {marker : String} (h : p.Unset marker)
    (label : String) : (RunError.missingScopeParameter label marker).Reports p := by
  intro v hv
  rcases h with h | h
  · rw [hv] at h
    cases h
  · rw [hv, Option.some.injEq] at h
    rw [h]
    rfl

/-- With a parameter missing that the ingestion reads, a load of rows is
    refused for a parameter. -/
theorem Schema.load_refused {schema : Schema} (hschema : schema.Built)
    (hfree : schema.LeavesFilledIn) {rows : List Row} {p : Parameters} {o : SyncOptions}
    (hrows : rows ≠ []) :
    ∀ name ∈ parameterNames schema.references, p.contains name = false →
      ∃ e, schema.load rows p o = .error e ∧ e.Reports p := by
  intro name hname hmissing
  have hasked := mem_callerParameters_of_reads hschema hname (hfree name hname)
  have hlacking : ¬ ∀ name ∈ callerParameters schema.ingestion, p.contains name = true := by
    intro hgiven
    have hpresent := hgiven name hasked
    rw [hmissing] at hpresent
    cases hpresent
  cases hload : schema.load rows p o with
  | ok load =>
    rcases schema.load_ok hload with ⟨hnone, -⟩ | ⟨-, -, -, hgiven, -⟩
    · exact absurd hnone hrows
    · exact absurd hgiven hlacking
  | error e =>
    refine ⟨e, rfl, ?_⟩
    cases Schema.load_eq_error_iff.1 hload with
    | marker _ _ hunset => exact hunset.reports _
    | parameter _ _ hfirst => exact hfirst.absent
    | row _ _ hgiven _ => exact absurd hgiven hlacking

/-! ## Cleanups -/

namespace NodeSchema

variable {s : NodeSchema} {p : Parameters}

theorem cleanup_sent (hfree : (Schema.node s).LeavesFilledIn) {job : CleanupJob}
    (hjob : CleanupJob.ofNodeSchema s p = .ok job) {ε : Type} (o : SyncOptions)
    (replies : List (Reply ε)) : ∀ call ∈ (play (job.stages o) replies).calls,
      ∃ q ∈ s.cleanup, call.Binds p (parameterNames s.ownerReferences) q := by
  intro call hcall
  obtain ⟨stage, hstage, rfl⟩ := mem_play_calls hcall
  obtain ⟨_, hcheck, hjob⟩ := Except.of_bind_ok hjob
  cases hjob
  obtain ⟨q, hq, rfl⟩ := List.mem_map.1 hstage
  -- the job has been checked for all that its queries read
  have hgiven := CleanupJob.checkParameters_eq_ok.1 hcheck q hq
  refine ⟨q, hq, Call.binds_of_filled rfl rfl ?_ ?_⟩
  · intro name hname hne
    have hrows : name ≠ rowsParam := by
      rcases (mem_clauseParams_cleanup hq).1 hname with rfl | rfl | hreads
      · decide
      · decide
      · exact (hfree name (mem_references_of_owner hreads)).1
    exact hgiven name (mem_callerParameters.2 ⟨hname, hrows, hne⟩)
  · intro name hreads
    have hne := hfree name (mem_references_of_owner hreads)
    have hname := (mem_clauseParams_cleanup hq).2 (.inr (.inr hreads))
    exact ⟨hne.2, hgiven name (mem_callerParameters.2 ⟨hname, hne⟩)⟩

theorem cleanup_refused (hfree : (Schema.node s).LeavesFilledIn) :
    ∀ name ∈ parameterNames s.ownerReferences, p.contains name = false →
      ∃ e, CleanupJob.ofNodeSchema s p = .error e ∧ e.Reports p := by
  intro name hname hmissing
  have hne := hfree name (mem_references_of_owner hname)
  have hquery : ∃ q, q ∈ s.cleanup := by
    -- there is an owner, so the first query is about its nodes
    obtain ⟨sub, hsub, -⟩ := mem_parameterNames_flatMap.1 hname
    unfold subResource? at hsub
    unfold cleanup
    cases hscope : s.scope with
    | subResource owner => exact ⟨_, List.mem_cons_self⟩
    | relationshipsOnly => simp [hscope] at hsub
    | unscoped => simp [hscope] at hsub
  obtain ⟨q, hq⟩ := hquery
  have hasked : name ∈ callerParameters q :=
    mem_callerParameters.2 ⟨(mem_clauseParams_cleanup hq).2 (.inr (.inr hname)), hne⟩
  obtain ⟨e, hdue⟩ := NodeSchema.exists_cleanupDue_iff.2 ⟨q, hq, name, hasked, hmissing⟩
  refine ⟨e, CleanupJob.ofNodeSchema_eq_error_iff.2 hdue, ?_⟩
  obtain ⟨-, -, hfirst⟩ := hdue
  exact hfirst.absent

end NodeSchema

/-- The cleanup of a matchlink binds what it is given, whatever the schema. -/
theorem Matchlink.cleanup_sent (m : Matchlink) : m.CleanupBinds := by
  intro scopeLabel scopeId tag ε o replies call hcall
  obtain ⟨stage, hstage, rfl⟩ := mem_play_calls hcall
  obtain ⟨q, hq, rfl⟩ := List.mem_map.1 hstage
  cases List.mem_singleton.1 hq
  have hgiven : ∀ name ∈ [updateTagParam, scopeLabelKey, scopeIdKey],
      name ≠ limitParam ∧
        (CleanupJob.ofMatchlink m scopeLabel scopeId tag).params.contains name = true := by
    intro name hname
    simp only [List.mem_cons, List.not_mem_nil, or_false] at hname
    unfold CleanupJob.ofMatchlink Dictionary.contains
    rcases hname with rfl | rfl | rfl
    · refine ⟨by decide, ?_⟩
      rw [Dictionary.find?_insert_of_ne _ (by decide), Dictionary.find?_insert_of_ne _ (by decide),
        Dictionary.find?_insert_self]
      rfl
    · refine ⟨by decide, ?_⟩
      rw [Dictionary.find?_insert_of_ne _ (by decide), Dictionary.find?_insert_self]
      rfl
    · refine ⟨by decide, ?_⟩
      rw [Dictionary.find?_insert_self]
      rfl
  refine Call.binds_of_filled rfl rfl ?_ hgiven
  intro name hname hne
  rw [m.clauseParams_cleanup] at hname
  refine (hgiven name ?_).2
  simp only [List.mem_cons, List.not_mem_nil, or_false] at hname ⊢
  rcases hname with h | h | h | h
  · exact .inl h
  · exact .inr (.inl h)
  · exact .inr (.inr h)
  · exact absurd h hne

/-! ## Schemas that do not bind their parameters -/

/-- Names with one and the same value. -/
def Parameters.supply (names : List String) (value : Json) : Parameters :=
  Dictionary.ofList (names.map fun name => (name, value))

theorem Parameters.find?_supply (names : List String) (value : Json) (name : String) :
    (supply names value).find? name = if name ∈ names then some value else none := by
  -- the names are inserted one after another, into more and more
  have hinsert (d : Parameters) : (d.insertMany (names.map fun name => (name, value))).find? name =
      if name ∈ names then some value else d.find? name := by
    induction names generalizing d with
    | nil => rfl
    | cons first rest ih =>
      have hrest := ih (d.insert first value)
      unfold Dictionary.insertMany at hrest ⊢
      rw [List.map_cons, List.foldl_cons, hrest]
      by_cases hname : name = first
      · subst hname
        simp
      · rw [Dictionary.find?_insert_of_ne _ hname]
        simp [hname]
  exact hinsert .empty

theorem Parameters.contains_supply {names : List String} {value : Json} {name : String} :
    (supply names value).contains name = true ↔ name ∈ names := by
  unfold Dictionary.contains
  rw [find?_supply]
  by_cases hname : name ∈ names
  · simp [hname]
  · simp [hname]

/-- With all that it asks for, and not null, a schema loads any rows that are
    objects. -/
theorem Schema.load_of_supplied (schema : Schema) (names : List String)
    (hmarkers : scopeLabelKey ∈ names ∧ scopeIdKey ∈ names)
    (hasked : ∀ name ∈ callerParameters schema.ingestion, name ∈ names) :
    ∃ load,
      schema.load [.ok (.object [])] (Parameters.supply names (.bool true)) {} = .ok load := by
  have hgiven : ∀ name ∈ callerParameters schema.ingestion,
      (Parameters.supply names (.bool true)).contains name = true := fun name hname =>
    Parameters.contains_supply.2 (hasked name hname)
  have hchecked : checkRows [.ok (.object [])] = .ok [.object []] := rfl
  cases schema with
  | node s => exact ⟨_, Load.prepare_of_supplied s.label s.indexes {} rfl hgiven hchecked⟩
  | matchlink m =>
    have hscope : m.checkScope (Parameters.supply names (.bool true)) = .ok () := by
      unfold Matchlink.checkScope
      simp [Parameters.find?_supply, hmarkers, Json.isNull]
    show ∃ load, m.load _ _ _ = .ok load
    unfold Matchlink.load
    rw [hscope]
    exact ⟨_, Load.prepare_of_supplied m.relationship.label m.indexes {} rfl hgiven hchecked⟩

/-- No statement of an accepted schema is sent with a parameter unbound or in
    place of the caller's, just when no reference reads a parameter with the
    name of the rows or of the window. -/
theorem parameters_are_bound {schema : Schema} (hschema : schema.Built) :
    schema.BindsParameters ↔ schema.LeavesFilledIn := by
  constructor
  · intro hbinds name hname
    by_contra hfilled
    -- all that is asked for is given, and `name` is not among it
    have hnot : name ∉ callerParameters schema.ingestion := fun hmem =>
      hfilled (mem_callerParameters.1 hmem).2
    have hmarkers : name ≠ scopeLabelKey ∧ name ≠ scopeIdKey := by
      constructor
      · rintro rfl
        exact hfilled (by decide)
      · rintro rfl
        exact hfilled (by decide)
    let names := scopeLabelKey :: scopeIdKey :: callerParameters schema.ingestion
    have hmissing : (Parameters.supply names (.bool true)).contains name = false := by
      rw [Bool.eq_false_iff]
      intro hcontains
      have hmem := Parameters.contains_supply.1 hcontains
      simp [names, hmarkers, hnot] at hmem
    obtain ⟨load, hload⟩ := schema.load_of_supplied names (by simp [names])
      fun other hother => by simp [names, hother]
    have hrows : ([.ok (.object [])] : List Row) ≠ [] := List.cons_ne_nil _ _
    obtain ⟨e, herror, -⟩ := hbinds.load.refused (o := {}) hrows name hname hmissing
    rw [hload] at herror
    cases herror
  · intro hfree
    refine ⟨⟨schema.load_sent hschema hfree, schema.load_refused hschema hfree⟩, ?_⟩
    cases schema with
    | node s => exact ⟨s.cleanup_sent hfree, s.cleanup_refused hfree⟩
    | matchlink m => exact m.cleanup_sent

/-- The sample schema binds its parameters. -/
theorem sample_parameters_are_bound :
    (Schema.node Sample.hosts).Built ∧ (Schema.node Sample.hosts).LeavesFilledIn ∧
      (Schema.node Sample.hosts).BindsParameters := by
  have hfree : (Schema.node Sample.hosts).LeavesFilledIn := by
    unfold Schema.LeavesFilledIn
    decide
  exact ⟨Sample.hosts_built, hfree, (parameters_are_bound Sample.hosts_built).2 hfree⟩

namespace Sample

/-- Hosts with a region, which is to come from the parameter that sizes the
    windows of a cleanup. -/
def windowed : NodeSchema where
  label := "Host"
  properties :=
    [(idKey, .row "id"), (lastUpdatedKey, .param lastUpdatedKey), ("region", .param limitParam)]
  extraLabels := []
  scope := .relationshipsOnly
  others := []

theorem windowed_built : (Schema.node windowed).Built := by
  refine ⟨⟨{ label := "Host", properties := windowed.properties }, rfl⟩, ?_⟩
  intro rel hrel
  cases hrel

/-- The parameters of run 1 with a batch of one host. -/
def windowedParams : Parameters :=
  (Parameters.forRun 1).insert rowsParam (.array [.object [("id", .string "x")]])

/-- A run without a region is not refused, and sends its rows. -/
theorem windowed_load : ∃ load,
    (Schema.node windowed).load [.ok (.object [("id", .string "x")])] (Parameters.forRun 1) {} =
      .ok load ∧
    .run { text := windowed.ingestion.text, params := windowedParams } ∈
      (play load.stages ([.ok 0, .ok 0, .ok 0] : List (Reply String))).calls := by
  have hchecked : checkRows [.ok (.object [("id", .string "x")])] =
      .ok [.object [("id", .string "x")]] := rfl
  have hgiven : ∀ name ∈ callerParameters windowed.ingestion,
      (Parameters.forRun 1).contains name = true := by
    intro name hname
    have hreads : ∀ name ∈ clauseParams windowed.ingestion,
        name = rowsParam ∨ name = limitParam ∨ (Parameters.forRun 1).contains name = true := by
      decide
    obtain ⟨hmem, hrows, hlimit⟩ := mem_callerParameters.1 hname
    exact ((hreads name hmem).resolve_left hrows).resolve_left hlimit
  refine ⟨_, Load.prepare_of_supplied "Host" windowed.indexes {} rfl hgiven hchecked, ?_⟩
  have hindexes : windowed.indexes = [.node "Host" idKey, .node "Host" lastUpdatedKey] := by decide
  have hbatches (row : Json) : batches 10000 [row] = [[row]] := by simp [batches]
  show _ ∈ (play (indexStages windowed.indexes ++
    (batches 10000 [Json.object [("id", .string "x")]]).map _) _).calls
  rw [hindexes, hbatches]
  exact List.mem_cons_of_mem _ (List.mem_cons_of_mem _ List.mem_cons_self)

end Sample

/-- The checks on schemas do not see to it: the ingestion of `windowed` reads
    the parameter of a window, which a load neither asks for nor fills in. -/
theorem windowed_parameter_is_unbound :
    (Schema.node Sample.windowed).Built ∧ ¬ (Schema.node Sample.windowed).BindsParameters := by
  refine ⟨Sample.windowed_built, ?_⟩
  intro hbinds
  obtain ⟨load, hload, hcall⟩ := Sample.windowed_load
  rcases hbinds.load.sent hload _ _ hcall with ⟨i, hindex⟩ | hsent
  · -- an index statement has no parameters
    have hparams : Sample.windowedParams.contains rowsParam = Dictionary.empty.contains rowsParam :=
      congrArg (fun call => call.statement.params.contains rowsParam) hindex
    exact absurd hparams (by decide)
  · have hreads : limitParam ∈ Sample.windowed.ingestion.parameters :=
      mem_sortedNames.2 (by decide)
    exact absurd (hsent.bound limitParam hreads) (by decide)

end GraphSync
