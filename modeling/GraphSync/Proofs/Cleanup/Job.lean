import GraphSync.Proofs.Cleanup.Sweep
import GraphSync.Proofs.Run.Parameters
import GraphSync.Proofs.Schema.Accepted

/-! # Cleanup jobs against a database

    The calls of a cleanup job are sweeps, each with the parameters of the job
    and a window as its limit.  `Schema.HasJob.answers` says all that one call
    can do: it removes some targets of its sweep, as many as fit in a window,
    and replies their number.  All that a whole job does is derived from
    this. -/

namespace GraphSync

open Cypher

/-! ## Jobs of a schema -/

/-- The sweeps of a schema, in the order in which they run. -/
def Schema.sweeps : Schema → List Sweep
  | .node s => s.sweeps
  | .matchlink m => [m.sweep]

/-- The cleanup queries of a schema. -/
def Schema.cleanup : Schema → List Query
  | .node s => s.cleanup
  | .matchlink m => [m.cleanup]

theorem Schema.cleanup_eq_sweeps (schema : Schema) :
    schema.cleanup = schema.sweeps.map Sweep.query := by
  cases schema with
  | node s => exact s.cleanup_eq_sweeps
  | matchlink m => rfl

/-- `schema.HasJob job`: `job` is a cleanup job of the schema, with the
    parameters of some run. -/
def Schema.HasJob : Schema → CleanupJob → Prop
  | .node s, job => ∃ p, CleanupJob.ofNodeSchema s p = .ok job
  | .matchlink m, job =>
    ∃ scopeLabel scopeId tag, CleanupJob.ofMatchlink m scopeLabel scopeId tag = job

/-- The checks of a job pass when its parameters have all that its queries
    read. -/
theorem CleanupJob.checkParameters_eq_ok {label : String} {p : Parameters} {qs : List Query} :
    checkParameters label p qs = .ok () ↔
      ∀ q ∈ qs, ∀ name ∈ Plan.callerParameters q, p.contains name = true := by
  induction qs with
  | nil => simp [checkParameters]
  | cons q rest ih =>
    rw [checkParameters, List.forall_mem_cons, ← Parameters.require_eq_ok label, ← ih]
    cases hrequire : p.require label (Plan.callerParameters q) with
    | error e => simp [bind, Except.bind]
    | ok u => simp [bind, Except.bind]

/-- A job that has passed the checks consists of the cleanup of its schema and
    the parameters it was given. -/
theorem CleanupJob.ofNodeSchema_ok {s : NodeSchema} {p : Parameters} {job : CleanupJob}
    (h : CleanupJob.ofNodeSchema s p = .ok job) : job.queries = s.cleanup ∧ job.params = p := by
  unfold CleanupJob.ofNodeSchema at h
  cases hcheck : checkParameters s.label p s.cleanup with
  | error e =>
    rw [hcheck] at h
    cases h
  | ok u =>
    rw [hcheck] at h
    cases h
    exact ⟨rfl, rfl⟩

theorem CleanupJob.ofNodeSchema_eq_ok {s : NodeSchema} {p : Parameters}
    (h : ∀ q ∈ s.cleanup, ∀ name ∈ clauseParams q, name = limitParam ∨ p.contains name = true) :
    CleanupJob.ofNodeSchema s p = .ok { label := s.label, queries := s.cleanup, params := p } := by
  have hcheck : checkParameters s.label p s.cleanup = .ok () := by
    rw [CleanupJob.checkParameters_eq_ok]
    intro q hq name hname
    obtain ⟨hmem, -, hlimit⟩ := Plan.mem_callerParameters.1 hname
    exact (h q hq name hmem).resolve_left hlimit
  unfold CleanupJob.ofNodeSchema
  rw [hcheck]
  rfl

theorem Schema.HasJob.queries {schema : Schema} {job : CleanupJob} (h : schema.HasJob job) :
    job.queries = schema.sweeps.map Sweep.query := by
  rw [← schema.cleanup_eq_sweeps]
  cases schema with
  | node s =>
    obtain ⟨p, hp⟩ := h
    exact (CleanupJob.ofNodeSchema_ok hp).1
  | matchlink m =>
    obtain ⟨scopeLabel, scopeId, tag, rfl⟩ := h
    rfl

/-! ## Calls of a job -/

namespace CleanupJob

/-- The parameters that go with each statement. -/
def sent (job : CleanupJob) (o : SyncOptions) : Parameters :=
  job.params.insert limitParam (.ofUInt64 o.window)

/-- What the statements are evaluated with.  They do not read the time. -/
def context (job : CleanupJob) (o : SyncOptions) (lower : String → String) : Context where
  params := job.sent o
  now := 0
  lower := lower

/-- The task of one query. -/
def task (job : CleanupJob) (o : SyncOptions) (q : Query) : Task where
  work := .query q
  stage := stage job.params o.window q
  text_eq := rfl

/-- The tasks of a job. -/
def tasks (job : CleanupJob) (o : SyncOptions) : List Task := job.queries.map (job.task o)

theorem map_stage_tasks (job : CleanupJob) (o : SyncOptions) :
    (job.tasks o).map Task.stage = job.stages o := by
  unfold tasks stages
  rw [List.map_map]
  rfl

theorem isOver_task {job : CleanupJob} {o : SyncOptions} {q : Query} {count : Int64} :
    (job.task o q).stage.isOver count = true ↔ count.toInt < o.window.toNat := by
  simp [task, stage, Stage.isOver]

theorem limitOf_sent (job : CleanupJob) (o : SyncOptions) :
    limitOf ((job.sent o).value limitParam) = some o.window.toNat := by
  unfold sent
  rw [Parameters.value_insert_self]
  simp [Json.ofUInt64, Json.Integer.ofUInt64, limitOf]

/-- The other parameters are those of the job. -/
theorem value_context (job : CleanupJob) (o : SyncOptions) (lower : String → String)
    {name : String} (h : name ≠ limitParam) :
    (job.context o lower).params.value name = job.params.value name :=
  Parameters.value_insert_of_ne _ h _

end CleanupJob

/-- A size of 0 acts as 1. -/
theorem toNat_atLeastOne (n : UInt64) : (if n = 0 then 1 else n).toNat = max 1 n.toNat := by
  by_cases h : n = 0
  · rw [if_pos h, h]
    rfl
  · rw [if_neg h]
    have hpos : n.toNat ≠ 0 := fun h0 => h (UInt64.toNat_inj.1 (by simpa using h0))
    omega

/-- A window has room for one element, and for no more than were asked for. -/
theorem SyncOptions.window_toNat (o : SyncOptions) :
    o.window.toNat = max 1 o.cleanupWindow.toNat :=
  toNat_atLeastOne o.cleanupWindow

theorem Json.ofInt64_inj {m n : Int64} (h : Json.ofInt64 m = Json.ofInt64 n) : m = n := by
  simp only [Json.ofInt64, Json.integer.injEq, Json.Integer.ofInt64, Json.Integer.mk.injEq] at h
  exact Int64.toInt_inj.1 h

namespace Schema.HasJob

variable {schema : Schema} {job : CleanupJob} {o : SyncOptions} {lower : String → String}
  {t : Task} {s s' : Store} {count : Int64}

theorem exists_sweep (hjob : schema.HasJob job) (ht : t ∈ job.tasks o) :
    ∃ w ∈ schema.sweeps, t = job.task o w.query := by
  obtain ⟨q, hq, rfl⟩ := List.mem_map.1 ht
  rw [hjob.queries] at hq
  obtain ⟨w, hw, rfl⟩ := List.mem_map.1 hq
  exact ⟨w, hw, rfl⟩

/-- What one call of a job does. -/
theorem answers {w : Sweep} (h : (job.task o w.query).Answers lower s count s') :
    ∃ dead, dead.Subperm (w.query.targets (job.context o lower) s.graph) ∧
      dead.length =
        min o.window.toNat (w.query.targets (job.context o lower) s.graph).length ∧
      s' = { s with graph := s.graph.without dead } ∧ count.toInt = dead.length := by
  obtain ⟨now, out, hexec, hreads⟩ := h
  obtain ⟨dead, hsub, hlen, hs', c, hc, hout⟩ := Sweep.removes (job.limitOf_sent o) hexec
  rw [← w.targets_at (job.context o lower) now]
  refine ⟨dead, hsub, hlen, hs', ?_⟩
  rw [← hc]
  -- the one row that comes back holds the count in the column that is read
  obtain ⟨row, rfl, hrow⟩ := List.map_eq_singleton_iff.1 hout
  have hcount : row deletedColumn = some (.value (.ofInt64 count)) := hreads
  rw [hrow, Option.some.injEq, Cell.value.injEq] at hcount
  rw [Json.ofInt64_inj hcount]

theorem within (hjob : schema.HasJob job) (ht : t ∈ job.tasks o)
    (h : t.Answers lower s count s') : s'.graph.Within s.graph := by
  obtain ⟨w, -, rfl⟩ := hjob.exists_sweep ht
  obtain ⟨dead, -, -, rfl, -⟩ := answers h
  exact s.graph.without_within dead

end Schema.HasJob

/-! ## A database for jobs -/

/-- The database that removes the first targets, as many as it may. -/
def Database.eager (lower : String → String) : Database := fun _ s t =>
  match t.work with
  | .query q =>
    let cx : Context := { params := t.stage.call.statement.params, now := 0, lower }
    let limit := (limitOf (cx.params.value limitParam)).getD 0
    let dead := (q.targets cx s.graph).take limit
    ({ s with graph := s.graph.without dead }, Int64.ofNat dead.length)
  | .index _ => (s, 0)

theorem Database.eager_answers {job : CleanupJob} {o : SyncOptions} {lower : String → String}
    {w : Sweep} {s : Store} {i : Nat} (hwindow : o.window.toNat < Int64.size / 2)
    (hlinks : w.detach = false →
      ∀ e ∈ w.query.targets (job.context o lower) s.graph, ∃ l, e = .link l) :
    (job.task o w.query).Answers lower s (eager lower i s (job.task o w.query)).2
      (eager lower i s (job.task o w.query)).1 := by
  have hlimit : limitOf ((job.context o lower).params.value limitParam) = some o.window.toNat :=
    job.limitOf_sent o
  have hexec := Sweep.exec_take hlimit hwindow hlinks
  have hdead : eager lower i s (job.task o w.query) =
      let dead := (w.query.targets (job.context o lower) s.graph).take o.window.toNat
      ({ s with graph := s.graph.without dead }, Int64.ofNat dead.length) := by
    show (let cx : Context := { params := job.sent o, now := 0, lower }
      let limit := (limitOf ((job.context o lower).params.value limitParam)).getD 0
      let dead := (w.query.targets cx s.graph).take limit
      (({ s with graph := s.graph.without dead }, Int64.ofNat dead.length) : Store × Int64)) = _
    rw [hlimit]
    rfl
  rw [hdead]
  exact ⟨0, _, hexec, rfl⟩

/-! ## A sample -/

namespace Sample

/-- Hosts of an account, with the services that they run. -/
def hosts : NodeSchema where
  label := "Host"
  properties := [(idKey, .row "id"), (lastUpdatedKey, .param lastUpdatedKey)]
  extraLabels := []
  scope := .subResource
    { label := "RESOURCE", direction := .inward
      target := { label := "Account", matcher := [(idKey, .param "ACCOUNT")] }
      properties := [(lastUpdatedKey, .param lastUpdatedKey)], source := none }
  others :=
    [{ label := "RUNS", direction := .outward
       target := { label := "Service", matcher := [("name", .row "service")] }
       properties := [(lastUpdatedKey, .param lastUpdatedKey)], source := none }]

theorem hosts_built : (Schema.node hosts).Built := by
  refine ⟨⟨{ label := "Host", properties := hosts.properties, subResource := hosts.subResource?,
             others := hosts.others }, rfl⟩, ?_⟩
  intro rel hrel
  refine ⟨{ label := rel.label, direction := rel.direction, target := some rel.target,
            properties := rel.properties, source := rel.source }, ?_⟩
  have hpair : rel ∈ [_, _] := hrel
  rcases List.mem_pair.1 hpair with rfl | rfl
  · rfl
  · rfl

/-- The cleanup of the second run, for the account `a`. -/
def job : CleanupJob where
  label := "Host"
  queries := hosts.cleanup
  params := (Parameters.forRun 2).insert "ACCOUNT" (.string "a")

theorem hasJob : (Schema.node hosts).HasJob job := by
  refine ⟨job.params, CleanupJob.ofNodeSchema_eq_ok ?_⟩
  decide

/-- Two accounts and three hosts.  The hosts 2 and 3 belong to `a`, and 4 to
    `b`; the second run has seen 3 only. -/
def graph : Graph where
  nodes := [0, 1, 2, 3, 4]
  links := [0, 1, 2]
  labels n := if n < 2 then {"Account"} else {"Host"}
  type _ := "RESOURCE"
  source l := if l = 2 then 1 else 0
  target l := l + 2
  prop e key :=
    match e, key with
    | .node 0, "id" => .string "a"
    | .node 1, "id" => .string "b"
    | .node 3, "lastupdated" | .link 1, "lastupdated" => .ofInt64 2
    | .node _, "lastupdated" | .link _, "lastupdated" => .ofInt64 1
    | _, _ => .null
  nodes_nodup := by decide
  links_nodup := by decide
  ends_mem := by decide

end Sample

end GraphSync
