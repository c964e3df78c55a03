import GraphSync.Proofs.Cleanup.Job
import GraphSync.Proofs.Ingestion.Marks
import GraphSync.Proofs.Run.References
import Mathlib.Logic.Function.Basic

/-! # Tenants of one database

    Several tenants load and clean up with one schema, each with parameters
    that name its own scope.  A tenant makes one call at a time, and a cleanup
    has the tag of the latest load of its tenant.  Statements are carried out
    at once and as a whole, but between two statements of one tenant the others
    may do as they like.

    * `Tenancy.Step` and `Tenancy.Run`: one event, and any number of them.
    * `Step.sent_cases` says what one statement may do to the graph, and
      `Run.keeps` what a whole run keeps.
    * `LatestLoad` is a run with a latest load of one tenant.  `at_loaded` and
      `at_last` show what it leaves behind: what one of its batches brings
      about, and all that comes later keeps. -/

namespace GraphSync

open Cypher

variable {ι : Type}

/-! ## Tenants -/

/-- Tenants of one database that share a schema. -/
structure Tenancy (ι : Type) where
  schema : Schema
  /-- What each tenant gives the parameters that name its scope. -/
  scope  : ι → Parameters
  /-- The database's own way to lower text. -/
  lower  : String → String

/-- The parameters `p` name the scope of a tenant. -/
def Tenancy.Gives (T : Tenancy ι) (i : ι) (p : Parameters) : Prop :=
  ∀ name ∈ T.schema.scopeNames, p.value name = (T.scope i).value name

/-- What the statement that sends a batch is evaluated with, but for the time. -/
def Tenancy.sending (T : Tenancy ι) (p : Parameters) (batch : List Json) : Context where
  params := p.insert rowsParam (.array batch)
  now := 0
  lower := T.lower

theorem Tenancy.value_sending (T : Tenancy ι) (p : Parameters) (batch : List Json) {name : String}
    (h : name ≠ rowsParam) : (T.sending p batch).params.value name = p.value name :=
  Parameters.value_insert_of_ne _ h _

theorem Tenancy.rows_sending (T : Tenancy ι) (p : Parameters) (batch : List Json) :
    (T.sending p batch).params.value rowsParam = .array batch :=
  Parameters.value_insert_self _ _ _

/-- The record of a run is fed by the parameter of loads that holds the tag. -/
def Schema.RecordsRun (schema : Schema) : Prop :=
  ∀ r ∈ schema.records, r.origin = .parameter ∧ r.name = lastUpdatedKey

theorem Schema.RecordsRun.value {schema : Schema} (h : schema.RecordsRun) {r : Reference}
    (hr : r ∈ schema.records) {p : Parameters} {tag : Int64}
    (hp : p.value lastUpdatedKey = .ofInt64 tag) (field : String → Json) :
    r.value p field = .ofInt64 tag := by
  obtain ⟨horigin, hname⟩ := h r hr
  unfold Reference.value
  rw [horigin, hname]
  exact hp

/-- The database that the tenants share, and how far each of them is. -/
structure Shared (ι : Type) where
  store   : Store
  /-- What is left of the call that a tenant is in the middle of. -/
  pending : ι → List Task
  /-- The run of the latest load of a tenant. -/
  tag     : ι → Option Int64

namespace Shared

variable [DecidableEq ι]

/-- The tenant `i` is left with some tasks. -/
def withPending (σ : Shared ι) (i : ι) (tasks : List Task) : Shared ι :=
  { σ with pending := Function.update σ.pending i tasks }

/-- The tenant `i` is in a new run. -/
def withTag (σ : Shared ι) (i : ι) (tag : Int64) : Shared ι :=
  { σ with tag := Function.update σ.tag i (some tag) }

@[simp] theorem withPending_store (σ : Shared ι) (i : ι) (tasks : List Task) :
    (σ.withPending i tasks).store = σ.store := rfl

@[simp] theorem withPending_tag (σ : Shared ι) (i : ι) (tasks : List Task) :
    (σ.withPending i tasks).tag = σ.tag := rfl

@[simp] theorem withPending_self (σ : Shared ι) (i : ι) (tasks : List Task) :
    (σ.withPending i tasks).pending i = tasks := by
  simp [withPending]

@[simp] theorem withPending_of_ne (σ : Shared ι) {i j : ι} (h : j ≠ i) (tasks : List Task) :
    (σ.withPending i tasks).pending j = σ.pending j := by
  simp [withPending, h]

@[simp] theorem withPending_withPending (σ : Shared ι) (i : ι) (tasks tasks' : List Task) :
    (σ.withPending i tasks).withPending i tasks' = σ.withPending i tasks' := by
  simp [withPending]

@[simp] theorem withTag_store (σ : Shared ι) (i : ι) (tag : Int64) :
    (σ.withTag i tag).store = σ.store := rfl

@[simp] theorem withTag_pending (σ : Shared ι) (i : ι) (tag : Int64) :
    (σ.withTag i tag).pending = σ.pending := rfl

@[simp] theorem withTag_self (σ : Shared ι) (i : ι) (tag : Int64) :
    (σ.withTag i tag).tag i = some tag := by
  simp [withTag]

@[simp] theorem withTag_of_ne (σ : Shared ι) {i j : ι} (h : j ≠ i) (tag : Int64) :
    (σ.withTag i tag).tag j = σ.tag j := by
  simp [withTag, h]

end Shared

/-! ## Events -/

/-- What a tenant does. -/
inductive Event (ι : Type) where
  /-- A load begins. -/
  | load (i : ι) (tag : Int64) (p : Parameters) (rows : List Row)
  /-- A cleanup begins. -/
  | cleanup (i : ι) (tag : Int64)
  /-- A statement is carried out and answered. -/
  | sent (i : ι) (t : Task)
  /-- A call ends before all its statements are carried out. -/
  | stopped (i : ι)

namespace Tenancy

variable [DecidableEq ι] (T : Tenancy ι)

/-- One event. -/
inductive Step : Shared ι → Event ι → Shared ι → Prop where
  | load {σ : Shared ι} {i : ι} {tag : Int64} {p : Parameters} {rows : List Row} {o : SyncOptions}
      {load : Load} {tasks : List Task} (idle : σ.pending i = []) (gives : T.Gives i p)
      (marks : p.value lastUpdatedKey = .ofInt64 tag)
      (accepted : T.schema.load rows p o = .ok load) (carries : T.schema.Carries p load tasks) :
      Step σ (.load i tag p rows) ((σ.withTag i tag).withPending i tasks)
  | cleanup {σ : Shared ι} {i : ι} {tag : Int64} {job : CleanupJob} {o : SyncOptions}
      (idle : σ.pending i = []) (latest : σ.tag i = some tag) (hasJob : T.schema.HasJob job)
      (gives : T.Gives i job.params)
      (compares : job.params.value updateTagParam = .ofInt64 tag) :
      Step σ (.cleanup i tag) (σ.withPending i (job.tasks o))
  | sent {σ : Shared ι} {i : ι} {t : Task} {rest : List Task} {count : Int64} {store : Store}
      (first : σ.pending i = t :: rest) (answers : t.Answers T.lower σ.store count store) :
      Step σ (.sent i t) ({ σ with store }.withPending i (t.next rest count))
  | stopped {σ : Shared ι} {i : ι} : Step σ (.stopped i) (σ.withPending i [])

/-- Events one after another. -/
inductive Run : Shared ι → List (Event ι) → Shared ι → Prop where
  | nil (σ : Shared ι) : Run σ [] σ
  | cons {σ σ₁ σ' : Shared ι} {e : Event ι} {events : List (Event ι)} (first : T.Step σ e σ₁)
      (later : Run σ₁ events σ') : Run σ (e :: events) σ'

/-! ## Statements of a tenant -/

/-- `T.Ingests i tag p batch g g'`: the statement that sends a batch, in a load
    of the tenant with the parameters `p`, may take `g` to `g'`. -/
structure Ingests (i : ι) (tag : Int64) (p : Parameters) (batch : List Json) (g g' : Graph) :
    Prop where
  gives : T.Gives i p
  marks : p.value lastUpdatedKey = .ofInt64 tag
  exec  : ∃ now s s' rows, s.graph = g ∧ s'.graph = g' ∧
    T.schema.ingestion.Exec { T.sending p batch with now } s s' rows

/-- `T.Sweeps i tag g g'`: a statement of a cleanup of the tenant may take `g`
    to `g'`. -/
structure Sweeps (i : ι) (tag : Int64) (g g' : Graph) : Prop where
  removes : ∃ job o, T.schema.HasJob job ∧ T.Gives i job.params ∧
    job.params.value updateTagParam = .ofInt64 tag ∧
    ∃ w ∈ T.schema.sweeps, ∃ dead ⊆ w.query.targets (job.context o T.lower) g,
      g' = g.without dead

/-- Tasks of the calls of a tenant in a run. -/
inductive Owns (i : ι) (tag : Int64) : Task → Prop where
  | index (index : Index) : Owns i tag (.index index)
  | batch {p : Parameters} (batch : List Json) (gives : T.Gives i p)
      (marks : p.value lastUpdatedKey = .ofInt64 tag) :
      Owns i tag (.batch T.schema.ingestion p batch)
  | sweep {job : CleanupJob} (o : SyncOptions) {w : Sweep} (hasJob : T.schema.HasJob job)
      (gives : T.Gives i job.params) (compares : job.params.value updateTagParam = .ofInt64 tag)
      (mem : w ∈ T.schema.sweeps) : Owns i tag (job.task o w.query)

/-- All that is pending comes from calls of its tenant, in the run of the
    tenant's latest load. -/
def Proper (σ : Shared ι) : Prop :=
  ∀ i, ∀ t ∈ σ.pending i, ∃ tag, σ.tag i = some tag ∧ T.Owns i tag t

variable {T} {σ σ' : Shared ι} {e : Event ι} {events : List (Event ι)}

omit [DecidableEq ι] in
theorem Proper.of_idle (h : ∀ i, σ.pending i = []) : T.Proper σ := by
  intro i t ht
  rw [h i] at ht
  cases ht

/-- What a tenant is left with is proper if it comes from its calls. -/
theorem Proper.withPending {i : ι} {tasks : List Task}
    (hothers : ∀ j ≠ i, ∀ t ∈ σ.pending j, ∃ tag, σ.tag j = some tag ∧ T.Owns j tag t)
    (htasks : ∀ t ∈ tasks, ∃ tag, σ.tag i = some tag ∧ T.Owns i tag t) :
    T.Proper (σ.withPending i tasks) := by
  intro j t ht
  by_cases hj : j = i
  · subst hj
    rw [Shared.withPending_self] at ht
    exact htasks t ht
  · rw [Shared.withPending_of_ne _ hj] at ht
    exact hothers j hj t ht

theorem Step.proper (hstep : T.Step σ e σ') (h : T.Proper σ) : T.Proper σ' := by
  cases hstep with
  | @load i tag p rows o load tasks idle gives marks accepted carries =>
    apply Proper.withPending
    · intro j hj t ht
      rw [Shared.withTag_of_ne _ hj]
      exact h j t ht
    · intro t ht
      refine ⟨tag, Shared.withTag_self _ _ _, ?_⟩
      rcases carries.works t ht with ⟨index, rfl⟩ | ⟨batch, rfl⟩
      · exact .index index
      · exact .batch batch gives marks
  | @cleanup i tag job o idle latest hasJob gives compares =>
    apply Proper.withPending fun j _ => h j
    intro t ht
    obtain ⟨w, hw, rfl⟩ := hasJob.exists_sweep ht
    exact ⟨tag, latest, .sweep o hasJob gives compares hw⟩
  | @sent i t rest count store first answers =>
    apply Proper.withPending fun j _ => h j
    -- what is pending next was pending already
    intro u hu
    apply h i u
    rw [first]
    exact t.next_subset rest count hu
  | @stopped i =>
    apply Proper.withPending fun j _ => h j
    simp

theorem Run.proper (hrun : T.Run σ events σ') (h : T.Proper σ) : T.Proper σ' := by
  induction hrun with
  | nil => exact h
  | cons first _ ih => exact ih (first.proper h)

/-- A statement of a tenant makes sure of an index, or sends a batch, or sweeps.
    All of them belong to the run of its latest load. -/
theorem Step.sent_cases {i : ι} {t : Task} (hstep : T.Step σ (.sent i t) σ') (h : T.Proper σ) :
    ∃ tag, σ.tag i = some tag ∧
      (σ'.store.graph = σ.store.graph ∨
        (∃ p batch, t = .batch T.schema.ingestion p batch ∧
          T.Ingests i tag p batch σ.store.graph σ'.store.graph) ∨
        T.Sweeps i tag σ.store.graph σ'.store.graph) := by
  cases hstep with
  | @sent _ _ rest count store first answers =>
    obtain ⟨tag, htag, howns⟩ := h i t (by rw [first]; exact List.mem_cons_self)
    refine ⟨tag, htag, ?_⟩
    cases howns with
    | index index =>
      obtain ⟨now, rows, ⟨hstore, -⟩, -⟩ := answers
      exact .inl (congrArg Store.graph hstore)
    | @batch p batch gives marks =>
      obtain ⟨now, rows, hexec, -⟩ := answers
      exact .inr (.inl ⟨p, batch, rfl, gives, marks, now, σ.store, store, rows, rfl, rfl, hexec⟩)
    | @sweep job o w hasJob gives compares mem =>
      obtain ⟨dead, hdead, -, hstore, -⟩ := Schema.HasJob.answers answers
      exact .inr (.inr ⟨job, o, hasJob, gives, compares, w, mem, dead, hdead.subset,
        congrArg Store.graph hstore⟩)

/-- The statement that sends a batch is an ingestion. -/
theorem Step.ingests {i : ι} {tag : Int64} {p : Parameters} {batch : List Json}
    (hstep : T.Step σ (.sent i (.batch T.schema.ingestion p batch)) σ') (gives : T.Gives i p)
    (marks : p.value lastUpdatedKey = .ofInt64 tag) :
    T.Ingests i tag p batch σ.store.graph σ'.store.graph := by
  cases hstep with
  | @sent _ _ rest count store first answers =>
    obtain ⟨now, rows, hexec, -⟩ := answers
    exact ⟨gives, marks, now, σ.store, store, rows, rfl, rfl, hexec⟩

/-! ## What runs keep -/

variable (T) in
/-- Every statement keeps `I`, if it sends one of the batches among some events
    or sweeps, in one of the runs that `R` allows its tenant. -/
structure Keeps (events : List (Event ι)) (R : ι → Int64 → Prop) (I : Graph → Prop) : Prop where
  batch : ∀ {j tag p batch g g'}, .sent j (.batch T.schema.ingestion p batch) ∈ events →
    R j tag → T.Ingests j tag p batch g g' → I g → I g'
  sweep : ∀ {j tag g g'}, R j tag → T.Sweeps j tag g g' → I g → I g'

variable {R : ι → Int64 → Prop} {I : Graph → Prop}

omit [DecidableEq ι] in
theorem Keeps.mono {fewer : List (Event ι)} (h : T.Keeps events R I) (hsub : fewer ⊆ events) :
    T.Keeps fewer R I where
  batch := fun hmem => h.batch (hsub hmem)
  sweep := h.sweep

/-- The latest load of each tenant is in a run that `R` allows. -/
def Allowed (R : ι → Int64 → Prop) (σ : Shared ι) : Prop := ∀ j tag, σ.tag j = some tag → R j tag

theorem Step.allowed (hstep : T.Step σ e σ')
    (hload : ∀ j tag p rows, e = .load j tag p rows → R j tag) (h : Allowed R σ) :
    Allowed R σ' := by
  cases hstep with
  | @load i tag p rows =>
    intro j run hrun
    rw [Shared.withPending_tag] at hrun
    by_cases hj : j = i
    · subst hj
      rw [Shared.withTag_self, Option.some.injEq] at hrun
      exact hrun ▸ hload j tag p rows rfl
    · rw [Shared.withTag_of_ne _ hj] at hrun
      exact h j run hrun
  | _ => exact h

theorem Step.keeps (hstep : T.Step σ e σ') (hproper : T.Proper σ) (hallowed : Allowed R σ)
    (hkeeps : T.Keeps [e] R I) (h : I σ.store.graph) : I σ'.store.graph := by
  cases e with
  | sent i t =>
    obtain ⟨tag, htag, hsame | ⟨p, batch, rfl, hbatch⟩ | hsweep⟩ := hstep.sent_cases hproper
    · rw [hsame]
      exact h
    · exact hkeeps.batch List.mem_cons_self (hallowed i tag htag) hbatch h
    · exact hkeeps.sweep (hallowed i tag htag) hsweep h
  | _ =>
    -- no statement is carried out
    cases hstep
    exact h

/-- What each statement keeps is kept by the whole run. -/
theorem Run.keeps (hrun : T.Run σ events σ') (hproper : T.Proper σ) (hallowed : Allowed R σ)
    (hload : ∀ j tag p rows, .load j tag p rows ∈ events → R j tag)
    (hkeeps : T.Keeps events R I) (h : I σ.store.graph) : Allowed R σ' ∧ I σ'.store.graph := by
  induction hrun with
  | nil => exact ⟨hallowed, h⟩
  | @cons σ σ₁ σ' e events first later ih =>
    -- what is proper and allowed at first is so after one event
    apply ih (first.proper hproper)
    · apply first.allowed _ hallowed
      rintro j tag p rows rfl
      exact hload j tag p rows List.mem_cons_self
    · intro j tag p rows hmem
      exact hload j tag p rows (List.mem_cons_of_mem _ hmem)
    · exact hkeeps.mono (List.subset_cons_self _ _)
    · exact first.keeps hproper hallowed (hkeeps.mono (by simp)) h

theorem Run.split {es fs : List (Event ι)} (hrun : T.Run σ (es ++ fs) σ') :
    ∃ σ₁, T.Run σ es σ₁ ∧ T.Run σ₁ fs σ' := by
  induction es generalizing σ with
  | nil => exact ⟨σ, .nil σ, hrun⟩
  | cons e es ih =>
    cases hrun with
    | cons first later =>
      obtain ⟨σ₁, hes, hfs⟩ := ih later
      exact ⟨σ₁, .cons first hes, hfs⟩

theorem Run.append {es fs : List (Event ι)} {σ₁ : Shared ι} (hes : T.Run σ es σ₁)
    (hfs : T.Run σ₁ fs σ') : T.Run σ (es ++ fs) σ' := by
  induction hes with
  | nil => exact hfs
  | cons first _ ih => exact .cons first (ih hfs)

/-- What is pending stays so until its tenant sends it, or stops. -/
theorem Step.pending_cases {i : ι} {t : Task} (hstep : T.Step σ e σ') (ht : t ∈ σ.pending i) :
    t ∈ σ'.pending i ∨ e = .sent i t ∨ e = .stopped i := by
  have hothers {σ : Shared ι} {j : ι} {tasks : List Task} (hj : i ≠ j) (ht : t ∈ σ.pending i) :
      t ∈ (σ.withPending j tasks).pending i := by
    rw [Shared.withPending_of_ne _ hj]
    exact ht
  cases hstep with
  | @load j tag p rows o load tasks idle gives marks accepted carries =>
    by_cases hj : i = j
    · -- a call does not begin while something is pending
      subst hj
      rw [idle] at ht
      cases ht
    · exact .inl (hothers hj ht)
  | @cleanup j tag job o idle latest hasJob gives compares =>
    by_cases hj : i = j
    · subst hj
      rw [idle] at ht
      cases ht
    · exact .inl (hothers hj ht)
  | @sent j u rest count store first answers =>
    by_cases hj : i = j
    · subst hj
      rw [first] at ht
      rcases List.mem_cons.1 ht with rfl | ht
      · exact .inr (.inl rfl)
      · -- what comes later is pending whether the statement is repeated or not
        left
        rw [Shared.withPending_self]
        unfold Task.next
        split
        · exact ht
        · exact List.mem_cons_of_mem _ ht
    · exact .inl (hothers hj ht)
  | @stopped j =>
    by_cases hj : i = j
    · exact .inr (.inr (hj ▸ rfl))
    · exact .inl (hothers hj ht)

/-- A tenant that is through with its calls, none of which was stopped, has
    sent all that was pending. -/
theorem Run.sent_of_pending {i : ι} (hrun : T.Run σ events σ') (hend : σ'.pending i = [])
    (hstopped : .stopped i ∉ events) : ∀ t ∈ σ.pending i, .sent i t ∈ events := by
  induction hrun with
  | nil σ =>
    intro t ht
    rw [hend] at ht
    cases ht
  | cons first later ih =>
    have hlater := ih hend fun hmem => hstopped (List.mem_cons_of_mem _ hmem)
    intro t ht
    rcases first.pending_cases ht with ht | rfl | rfl
    · exact List.mem_cons_of_mem _ (hlater t ht)
    · exact List.mem_cons_self
    · exact absurd List.mem_cons_self hstopped

/-! ## Loads of one batch -/

variable (T) in
/-- What a load sends that has one batch. -/
def sends (i : ι) (indexes : List Index) (p : Parameters) (batch : List Json) : List (Event ι) :=
  indexes.map (fun index => .sent i (.index index)) ++ [.sent i (.batch T.schema.ingestion p batch)]

omit [DecidableEq ι] in
theorem of_mem_sends {i : ι} {indexes : List Index} {p : Parameters} {batch : List Json}
    (h : e ∈ T.sends i indexes p batch) : ∃ t, e = .sent i t := by
  rcases List.mem_append.1 h with h | h
  · obtain ⟨index, -, rfl⟩ := List.mem_map.1 h
    exact ⟨_, rfl⟩
  · exact ⟨_, List.mem_singleton.1 h⟩

/-- A tenant sends the first statement that is pending. -/
theorem Step.of_answers (σ : Shared ι) (i : ι) {t : Task} (rest : List Task) {store : Store}
    {count : Int64} (answers : t.Answers T.lower σ.store count store) :
    T.Step (σ.withPending i (t :: rest)) (.sent i t)
      (({ σ with store } : Shared ι).withPending i (t.next rest count)) := by
  have hstep : T.Step (σ.withPending i (t :: rest)) (.sent i t)
      (({ σ with store } : Shared ι).withPending i (t :: rest) |>.withPending i
        (t.next rest count)) := .sent (Shared.withPending_self _ _ _) answers
  rw [Shared.withPending_withPending] at hstep
  exact hstep

/-- A statement whose reply is not looked at is sent once. -/
theorem Step.of_pending (σ : Shared ι) (i : ι) {t : Task} (rest : List Task)
    {statement : Statement} (hcall : t.stage = { call := .run statement }) {store : Store}
    (now : Int64) {out : List Binding}
    (exec : t.work.Exec { params := statement.params, now, lower := T.lower } σ.store store out) :
    T.Step (σ.withPending i (t :: rest)) (.sent i t)
      (({ σ with store } : Shared ι).withPending i rest) := by
  have hnext : t.next rest 0 = rest := by simp [Task.next, hcall, Stage.isOver]
  have hanswers : t.Answers T.lower σ.store 0 store := by
    refine ⟨now, out, ?_, ?_⟩
    · rw [hcall]
      exact exec
    · rw [hcall]
      trivial
  have hstep := Step.of_answers (T := T) σ i rest hanswers
  rw [hnext] at hstep
  exact hstep

/-- Indexes are made sure of one by one. -/
theorem Run.of_indexes (σ : Shared ι) (i : ι) (indexes : List Index) (rest : List Task) :
    T.Run (σ.withPending i (indexes.map Task.index ++ rest))
      (indexes.map fun index => .sent i (.index index)) (σ.withPending i rest) := by
  induction indexes with
  | nil => exact .nil _
  | cons index indexes ih =>
    have hexec : (Task.index index).work.Exec
        { params := .empty, now := 0, lower := T.lower } σ.store σ.store [] := ⟨rfl, rfl⟩
    exact .cons (Step.of_pending σ i _ rfl 0 hexec) ih

/-- A load of one batch runs if its ingestion can be carried out. -/
theorem Run.of_load {i : ι} {tag : Int64} {p : Parameters} {rows : List Row} {o : SyncOptions}
    {load : Load} {indexes : List Index} {batch : List Json} {store : Store} {out : List Binding}
    (idle : σ.pending i = []) (gives : T.Gives i p) (marks : p.value lastUpdatedKey = .ofInt64 tag)
    (accepted : T.schema.load rows p o = .ok load)
    (stages : load.stages =
      indexStages indexes ++ [batchStage T.schema.ingestion.text p batch])
    (exec : T.schema.ingestion.Exec (T.sending p batch) σ.store store out) :
    T.Run σ (.load i tag p rows :: T.sends i indexes p batch)
      ({ σ.withTag i tag with store }.withPending i []) := by
  have hcarries : T.schema.Carries p load
      (indexes.map Task.index ++ [.batch T.schema.ingestion p batch]) := by
    constructor
    · rw [stages, List.map_append, List.map_map]
      rfl
    · intro t ht
      rcases List.mem_append.1 ht with ht | ht
      · obtain ⟨index, -, rfl⟩ := List.mem_map.1 ht
        exact .inl ⟨index, rfl⟩
      · exact .inr ⟨batch, List.mem_singleton.1 ht⟩
  have hindexes := Run.of_indexes (T := T) (σ.withTag i tag) i indexes
    [.batch T.schema.ingestion p batch]
  have hcall : (Task.batch T.schema.ingestion p batch).stage =
      { call := .run { text := T.schema.ingestion.text
                       params := p.insert rowsParam (.array batch) } } := rfl
  have hlast := Step.of_pending (T := T) (σ.withTag i tag) i [] hcall 0 exec
  exact .cons (.load idle gives marks accepted hcarries)
    (hindexes.append (.cons hlast (.nil _)))

/-- A load of one row runs if its parameters are accepted and its ingestion can
    be carried out. -/
theorem Run.of_row {i : ι} {tag : Int64} {p : Parameters} {row : Json} {label : String}
    {indexes : List Index} {store : Store} {out : List Binding} (idle : σ.pending i = [])
    (gives : T.Gives i p) (marks : p.value lastUpdatedKey = .ofInt64 tag)
    (hload : T.schema.load [.ok row] p {} =
      Load.prepare label T.schema.ingestion indexes [.ok row] p {})
    (hreads : ∀ name ∈ clauseParams T.schema.ingestion, name = rowsParam ∨ p.contains name = true)
    (hrow : checkRows [.ok row] = .ok [row])
    (exec : T.schema.ingestion.Exec (T.sending p [row]) σ.store store out) :
    T.Run σ (.load i tag p [.ok row] :: T.sends i indexes p [row])
      ({ σ.withTag i tag with store }.withPending i []) := by
  have hprepare := Load.prepare_eq_ok label indexes {} rfl hreads hrow
  have hbatches : batches ({} : SyncOptions).batch.toNat [row] = [[row]] := by
    simp [batches]
  apply Run.of_load idle gives marks (hload.trans hprepare) _ exec
  rw [hbatches]
  rfl

/-! ## Calls without others in between -/

/-- A session is a run in which one tenant sends its tasks.  If it has come to
    its end, nothing is left pending. -/
theorem Run.of_session {ε : Type} (i : ι) {tasks : List Task} {s s' : Store}
    {replies : List (Reply ε)} (hs : Session T.lower tasks s replies s') {σ : Shared ι}
    (hσ : σ.store = s) :
    ∃ events rest, T.Run (σ.withPending i tasks) events
        (({ σ with store := s' } : Shared ι).withPending i rest) ∧
      (∀ e ∈ events, e = .stopped i ∨ ∃ t, e = .sent i t) ∧
      ((play (tasks.map Task.stage) replies).progress = .finished → rest = []) := by
  induction hs generalizing σ with
  | pause tasks s =>
    subst hσ
    refine ⟨[], tasks, .nil _, by simp, ?_⟩
    intro hfin
    cases tasks with
    | nil => rfl
    | cons t rest => cases hfin
  | @answered t rest s s₁ s' count replies first later ih =>
    subst hσ
    have hstep := Step.of_answers (T := T) σ i rest first
    obtain ⟨events, left, hrun, hevents, hleft⟩ := ih (σ := { σ with store := s₁ }) rfl
    refine ⟨.sent i t :: events, left, .cons hstep hrun, ?_, ?_⟩
    · intro e he
      rcases List.mem_cons.1 he with rfl | he
      · exact .inr ⟨t, rfl⟩
      · exact hevents e he
    · intro hfin
      exact hleft (by rw [← hfin, t.progress_play])
  | @failed t rest s s' e last =>
    subst hσ
    have hstop (σ : Shared ι) (tasks : List Task) :
        T.Step (σ.withPending i tasks) (.stopped i) (σ.withPending i []) := by
      have hstep : T.Step (σ.withPending i tasks) (.stopped i)
          ((σ.withPending i tasks).withPending i []) := .stopped
      rw [Shared.withPending_withPending] at hstep
      exact hstep
    rcases last with rfl | ⟨count, answers⟩
    · exact ⟨[.stopped i], [], .cons (hstop σ _) (.nil _), by simp, fun _ => rfl⟩
    · -- the statement was carried out, but its answer was lost
      have hstep := Step.of_answers (T := T) σ i rest answers
      exact ⟨[.sent i t, .stopped i], [], .cons hstep (.cons (hstop _ _) (.nil _)), by simp,
        fun _ => rfl⟩

/-! ## The latest load of a tenant -/

variable (T) in
/-- A run in which a load of the tenant `i` is its latest: the load begins when
    the run has come to `found`, has returned by `loaded`, and no other load of
    the tenant begins until `last`. -/
structure LatestLoad (i : ι) where
  start  : Shared ι
  before : List (Event ι)
  found  : Shared ι
  tag    : Int64
  params : Parameters
  rows   : List Row
  during : List (Event ι)
  loaded : Shared ι
  since  : List (Event ι)
  last   : Shared ι
  /-- At the beginning nothing is pending. -/
  idle     : ∀ j, start.pending j = []
  earlier  : T.Run start before found
  loading  : T.Run found (.load i tag params rows :: during) loaded
  returned : loaded.pending i = [] ∧ .stopped i ∉ during
  later    : T.Run loaded since last
  latest   : ∀ tag p rows, .load i tag p rows ∉ during ++ since

namespace LatestLoad

variable {i : ι} (L : T.LatestLoad i)

/-- What comes after the beginning of the load. -/
def after : List (Event ι) := L.during ++ L.since

/-- From then on the tenant is in the run of the load. -/
def InRun (j : ι) (tag : Int64) : Prop := j = i → tag = L.tag

theorem found_proper : T.Proper L.found := L.earlier.proper (.of_idle L.idle)

/-- A load that has returned has sent all its rows. -/
theorem sent_of_row {row : Json} (hrow : .ok row ∈ L.rows) :
    ∃ batch, row ∈ batch ∧ .sent i (.batch T.schema.ingestion L.params batch) ∈ L.during := by
  cases L.loading with
  | cons first later =>
    cases first with
    | @load _ _ _ _ o load tasks idle gives marks accepted carries =>
      obtain ⟨batch, hmem, htask⟩ := carries.batch_of_row accepted hrow
      refine ⟨batch, hmem, later.sent_of_pending L.returned.1 L.returned.2 _ ?_⟩
      rw [Shared.withPending_self]
      exact htask

theorem loaded_proper : T.Proper L.loaded := L.loading.proper L.found_proper

theorem inRun_of_load {j : ι} {tag : Int64} {p : Parameters} {rows : List Row}
    (hmem : .load j tag p rows ∈ L.after) : L.InRun j tag := by
  rintro rfl
  exact absurd hmem (L.latest tag p rows)

/-- The load has put its tenant into its run, and has the parameters of the
    tenant. -/
theorem begun {σ : Shared ι} (first : T.Step L.found (.load i L.tag L.params L.rows) σ) :
    Allowed L.InRun σ ∧ σ.store = L.found.store ∧ T.Gives i L.params ∧
      L.params.value lastUpdatedKey = .ofInt64 L.tag := by
  cases first with
  | load idle gives marks =>
    refine ⟨?_, rfl, gives, marks⟩
    rintro j tag hrun rfl
    rw [Shared.withPending_tag, Shared.withTag_self, Option.some.injEq] at hrun
    exact hrun.symm

theorem loaded_allowed : Allowed L.InRun L.loaded := by
  cases L.loading with
  | cons first later =>
    -- nothing is said of the graph
    exact (later.keeps (I := fun _ => True) (first.proper L.found_proper) (L.begun first).1
      (fun _ _ _ _ hmem => L.inRun_of_load (List.mem_append_left _ hmem))
      ⟨fun _ _ _ _ => trivial, fun _ _ _ => trivial⟩ trivial).1

/-- What a batch of the load brings about, and all later statements of the load
    keep, holds when it has returned.  All of this may rely on `J`, which holds
    when the load begins. -/
theorem at_loaded {batch : List Json} {es fs : List (Event ι)}
    (hsplit : L.during = es ++ .sent i (.batch T.schema.ingestion L.params batch) :: fs)
    {J I : Graph → Prop} (hJ : T.Keeps L.during L.InRun J)
    (hI : T.Keeps fs L.InRun fun g => J g ∧ I g)
    (make : ∀ g g', T.Ingests i L.tag L.params batch g g' → J g → I g')
    (hfound : J L.found.store.graph) : J L.loaded.store.graph ∧ I L.loaded.store.graph := by
  have hes : es ⊆ L.during := hsplit ▸ List.subset_append_left _ _
  have hrest : .sent i (.batch T.schema.ingestion L.params batch) :: fs ⊆ L.during :=
    hsplit ▸ List.subset_append_right _ _
  have hload {events : List (Event ι)} (hsub : events ⊆ L.during) :
      ∀ j tag p rows, .load j tag p rows ∈ events → L.InRun j tag :=
    fun j tag p rows hmem => L.inRun_of_load (List.mem_append_left _ (hsub hmem))
  cases L.loading with
  | @cons _ σ₁ _ _ _ first later =>
    -- up to the batch `J` is kept, the batch adds `I`, and then both are kept
    have hproper₁ := first.proper L.found_proper
    obtain ⟨hallowed₁, hstore, hgives, hmarks⟩ := L.begun first
    rw [hsplit] at later
    obtain ⟨σ₂, hbefore, hafter⟩ := later.split
    obtain ⟨hallowed₂, hgraph₂⟩ := hbefore.keeps hproper₁ hallowed₁ (hload hes) (hJ.mono hes)
      (hstore ▸ hfound)
    have hproper₂ := hbefore.proper hproper₁
    cases hafter with
    | @cons _ σ₃ _ _ _ hstep hlast =>
      have hmade : J σ₃.store.graph ∧ I σ₃.store.graph := by
        have hone : [.sent i (.batch T.schema.ingestion L.params batch)] ⊆ L.during := by
          intro e he
          exact hrest (List.mem_singleton.1 he ▸ List.mem_cons_self)
        exact ⟨hstep.keeps hproper₂ hallowed₂ (hJ.mono hone) hgraph₂,
          make _ _ (hstep.ingests hgives hmarks) hgraph₂⟩
      have hallowed₃ : Allowed L.InRun σ₃ := hstep.allowed (by simp) hallowed₂
      exact (hlast.keeps (hstep.proper hproper₂) hallowed₃
        (hload (List.Subset.trans (List.subset_cons_self _ _) hrest)) hI hmade).2

/-- What holds when the load has returned, and all later statements keep, holds
    at the end. -/
theorem at_last {I : Graph → Prop} (hI : T.Keeps L.since L.InRun I)
    (hloaded : I L.loaded.store.graph) : I L.last.store.graph :=
  (L.later.keeps L.loaded_proper L.loaded_allowed
    (fun _ _ _ _ hmem => L.inRun_of_load (List.mem_append_right _ hmem)) hI hloaded).2

end LatestLoad

end Tenancy

end GraphSync
