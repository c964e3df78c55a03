import GraphSync.Proofs.Cleanup.Job
import GraphSync.Proofs.Ingestion.Load
import GraphSync.Proofs.Lexing.Parameters

/-! # Errors of the caller

    A call that the caller has got wrong is refused, and a refused call has
    sent nothing.  What a caller can get wrong is said without the checks, in
    the order in which it is reported:

    * `Schema.Due`: a scope marker that is absent or null, then a parameter of
      the ingestion that is absent, then a row that is no object.  Without rows
      only the markers matter.
    * `NodeSchema.CleanupDue`: a parameter of a cleanup statement that is
      absent.

    The checks report just these (`Schema.load_eq_error_iff`,
    `CleanupJob.ofNodeSchema_eq_error_iff`).  What the database reports is of a
    type of its own, so no reply can be taken for a refusal
    (`refused_when_due_and_before_any_call`). -/

namespace GraphSync

open Cypher Plan

/-! ## What is due -/

/-- A scope marker that is absent or null. -/
def Parameters.Unset (p : Parameters) (marker : String) : Prop :=
  p.find? marker = none ∨ p.find? marker = some .null

/-- The least of some names, by code points, that has no value. -/
structure Parameters.FirstAbsent (p : Parameters) (names : List String) (name : String) :
    Prop where
  mem    : name ∈ names
  absent : p.contains name = false
  least  : ∀ other ∈ names, p.contains other = false → name ≤ other

/-- Why a row cannot be sent, if it cannot. -/
def Row.refusal? : Row → Option String
  | .error reason => some reason
  | .ok (.object _) => none
  | .ok other => some ("got " ++ other.compact)

/-- The first row that cannot be sent. -/
structure FirstRefused (rows : List Row) (index : Nat) (reason : String) : Prop where
  refused : rows[index]?.bind Row.refusal? = some reason
  before  : ∀ i < index, rows[i]?.bind Row.refusal? = none

/-- The scope markers that a load needs, in the order in which it looks for
    them. -/
def Schema.markers : Schema → List String
  | .node _ => []
  | .matchlink _ => [scopeLabelKey, scopeIdKey]

/-- The error that a load of rows has to report. -/
inductive Schema.Due (schema : Schema) (rows : List Row) (p : Parameters) : RunError → Prop where
  | marker {before after : List String} {marker : String}
      (markers : schema.markers = before ++ marker :: after)
      (set : ∀ other ∈ before, ¬ p.Unset other) (unset : p.Unset marker) :
      Due schema rows p (.missingScopeParameter schema.label marker)
  | parameter {name : String} (set : ∀ marker ∈ schema.markers, ¬ p.Unset marker)
      (nonempty : rows ≠ []) (first : p.FirstAbsent (callerParameters schema.ingestion) name) :
      Due schema rows p (.missingParameter schema.label name)
  | row {index : Nat} {reason : String} (set : ∀ marker ∈ schema.markers, ¬ p.Unset marker)
      (nonempty : rows ≠ [])
      (given : ∀ name ∈ callerParameters schema.ingestion, p.contains name = true)
      (first : FirstRefused rows index reason) :
      Due schema rows p (.invalidRow index reason)

/-- The error that the cleanup of a node schema has to report: the first
    statement that lacks a parameter is reported with the first that it
    lacks. -/
inductive NodeSchema.CleanupDue (s : NodeSchema) (p : Parameters) : RunError → Prop where
  | parameter {before after : List Query} {q : Query} {name : String}
      (statements : s.cleanup = before ++ q :: after)
      (given : ∀ other ∈ before, ∀ name ∈ callerParameters other, p.contains name = true)
      (first : p.FirstAbsent (callerParameters q) name) :
      CleanupDue s p (.missingParameter s.label name)

/-! ## What the checks report -/

/-- The parameters that a caller is asked for are in code point order. -/
theorem Plan.callerParameters_pairwise (q : Query) : (callerParameters q).Pairwise (· < ·) :=
  (sortedNames_pairwise _).filter _

namespace Parameters

variable {p : Parameters} {names : List String} {name name' : String}

theorem FirstAbsent.unique (h : p.FirstAbsent names name) (h' : p.FirstAbsent names name') :
    name = name' :=
  String.le_antisymm (h.least name' h'.mem h'.absent) (h'.least name h.mem h.absent)

/-- In a sorted list the first name that is found to be missing is the least
    one. -/
theorem firstAbsent_of_firstMissing (hsorted : names.Pairwise (· < ·))
    (h : p.firstMissing names = some name) : p.FirstAbsent names name := by
  obtain ⟨habsent, before, after, rfl, hbefore⟩ := List.find?_eq_some_iff_append.1 h
  refine ⟨List.mem_append_right _ List.mem_cons_self, by simpa using habsent, ?_⟩
  intro other hother hmissing
  rcases List.mem_append.1 hother with hother | hother
  · have hpresent := hbefore other hother
    rw [hmissing] at hpresent
    cases hpresent
  · rcases List.mem_cons.1 hother with rfl | hother
    · exact String.le_refl _
    · have hlater := List.pairwise_cons.1 (List.pairwise_append.1 hsorted).2.1
      exact Std.le_of_lt (hlater.1 other hother)

theorem require_eq_error_iff (hsorted : names.Pairwise (· < ·)) (label : String) {e : RunError} :
    p.require label names = .error e ↔
      ∃ name, p.FirstAbsent names name ∧ e = .missingParameter label name := by
  unfold require
  cases hmissing : p.firstMissing names with
  | none =>
    simp only [reduceCtorEq, false_iff]
    rintro ⟨name, hfirst, -⟩
    have hpresent := List.find?_eq_none.1 hmissing name hfirst.mem
    simp [hfirst.absent] at hpresent
  | some name =>
    have hfirst := firstAbsent_of_firstMissing hsorted hmissing
    constructor
    · intro h
      cases h
      exact ⟨name, hfirst, rfl⟩
    · rintro ⟨name', hfirst', rfl⟩
      rw [hfirst.unique hfirst']

end Parameters

theorem FirstRefused.zero_iff {row : Row} {rows : List Row} {reason : String} :
    FirstRefused (row :: rows) 0 reason ↔ Row.refusal? row = some reason := by
  constructor
  · intro h
    exact h.refused
  · intro h
    exact ⟨h, fun i hi => absurd hi (Nat.not_lt_zero i)⟩

theorem FirstRefused.succ_iff {row : Row} {rows : List Row} {index : Nat} {reason : String} :
    FirstRefused (row :: rows) (index + 1) reason ↔
      Row.refusal? row = none ∧ FirstRefused rows index reason := by
  constructor
  · intro h
    refine ⟨h.before 0 (Nat.succ_pos index), h.refused, ?_⟩
    intro i hi
    exact h.before (i + 1) (by omega)
  · rintro ⟨hrow, h⟩
    refine ⟨h.refused, ?_⟩
    intro i hi
    cases i with
    | zero => exact hrow
    | succ i => exact h.before i (by omega)

theorem checkRowsFrom_of_refused {row : Row} {reason : String}
    (h : Row.refusal? row = some reason) (start : Nat) (rest : List Row) :
    checkRowsFrom start (row :: rest) = .error (.invalidRow start reason) := by
  unfold Row.refusal? at h
  split at h
  · cases h
    rfl
  · cases h
  · next other hobject =>
    cases h
    rw [checkRowsFrom]
    exact hobject

theorem checkRowsFrom_of_object {row : Row} (h : Row.refusal? row = none) (start : Nat)
    (rest : List Row) {e : RunError} :
    checkRowsFrom start (row :: rest) = .error e ↔ checkRowsFrom (start + 1) rest = .error e := by
  unfold Row.refusal? at h
  split at h
  · cases h
  · rw [checkRowsFrom]
    cases checkRowsFrom (start + 1) rest with
    | error e' => simp [Except.map]
    | ok rows => simp [Except.map]
  · cases h

/-- The first row that cannot be sent is reported. -/
theorem checkRowsFrom_eq_error_iff {rows : List Row} {start : Nat} {e : RunError} :
    checkRowsFrom start rows = .error e ↔
      ∃ index reason, FirstRefused rows index reason ∧ e = .invalidRow (start + index) reason := by
  induction rows generalizing start with
  | nil =>
    simp only [checkRowsFrom, reduceCtorEq, false_iff]
    rintro ⟨index, reason, hfirst, -⟩
    simpa using hfirst.refused
  | cons row rest ih =>
    cases hrow : Row.refusal? row with
    | some reason =>
      rw [checkRowsFrom_of_refused hrow]
      constructor
      · intro h
        cases h
        exact ⟨0, reason, FirstRefused.zero_iff.2 hrow, rfl⟩
      · rintro ⟨index, reason', hfirst, rfl⟩
        cases index with
        | zero =>
          rw [FirstRefused.zero_iff, hrow, Option.some.injEq] at hfirst
          rw [hfirst]
          rfl
        | succ index =>
          -- a later row is not the first one
          have hnone := (FirstRefused.succ_iff.1 hfirst).1
          rw [hrow] at hnone
          cases hnone
    | none =>
      rw [checkRowsFrom_of_object hrow, ih]
      constructor
      · rintro ⟨index, reason, hfirst, rfl⟩
        refine ⟨index + 1, reason, FirstRefused.succ_iff.2 ⟨hrow, hfirst⟩, ?_⟩
        rw [Nat.add_right_comm, Nat.add_assoc]
      · rintro ⟨index, reason, hfirst, rfl⟩
        cases index with
        | zero =>
          rw [FirstRefused.zero_iff, hrow] at hfirst
          cases hfirst
        | succ index =>
          refine ⟨index, reason, (FirstRefused.succ_iff.1 hfirst).2, ?_⟩
          rw [Nat.add_right_comm, Nat.add_assoc]

theorem checkRows_eq_error_iff {rows : List Row} {e : RunError} :
    checkRows rows = .error e ↔
      ∃ index reason, FirstRefused rows index reason ∧ e = .invalidRow index reason := by
  unfold checkRows
  have hfrom : checkRowsFrom 0 rows = .error e ↔ _ := checkRowsFrom_eq_error_iff
  simpa only [Nat.zero_add] using hfrom

/-- The check of one marker. -/
theorem Parameters.unset_iff {p : Parameters} {marker : String} :
    (!(p.find? marker).any fun v => !v.isNull) = true ↔ p.Unset marker := by
  unfold Unset
  cases p.find? marker with
  | none => simp
  | some v => cases v <;> simp [Json.isNull]

/-- The first marker that is not set is reported. -/
theorem Matchlink.checkScope_eq_error_iff {m : Matchlink} {p : Parameters} {e : RunError} :
    m.checkScope p = .error e ↔ ∃ before marker after,
      (Schema.matchlink m).markers = before ++ marker :: after ∧
        (∀ other ∈ before, ¬ p.Unset other) ∧ p.Unset marker ∧
          e = .missingScopeParameter m.relationship.label marker := by
  have hset (marker : String) :
      (!!(p.find? marker).any fun v => !v.isNull) = true ↔ ¬ p.Unset marker := by
    rw [← Parameters.unset_iff, Bool.not_not, Bool.not_eq_true', Bool.not_eq_false]
  unfold checkScope
  dsimp only
  constructor
  · intro h
    split at h
    · next marker hmarker =>
      cases h
      obtain ⟨hfound, before, after, hmarkers, hbefore⟩ :=
        List.find?_eq_some_iff_append.1 hmarker
      exact ⟨before, marker, after, hmarkers, fun other hother => (hset other).1
        (hbefore other hother), Parameters.unset_iff.1 hfound, rfl⟩
    · cases h
  · rintro ⟨before, marker, after, hmarkers, hbefore, hmarker, rfl⟩
    have hfound : [scopeLabelKey, scopeIdKey].find? (fun marker =>
        !(p.find? marker).any fun v => !v.isNull) = some marker :=
      List.find?_eq_some_iff_append.2 ⟨Parameters.unset_iff.2 hmarker, before, after, hmarkers,
        fun other hother => (hset other).2 (hbefore other hother)⟩
    rw [hfound]

theorem Matchlink.checkScope_eq_ok_iff {m : Matchlink} {p : Parameters} :
    m.checkScope p = .ok () ↔ ∀ marker ∈ (Schema.matchlink m).markers, ¬ p.Unset marker := by
  unfold checkScope
  dsimp only
  split
  · next marker hmarker =>
    have hfound := List.find?_some hmarker
    simp only [reduceCtorEq, false_iff]
    intro hset
    exact hset marker (List.mem_of_find?_eq_some hmarker) (Parameters.unset_iff.1 hfound)
  · next hnone =>
    simp only [true_iff]
    intro marker hmarker hunset
    exact List.find?_eq_none.1 hnone marker hmarker (Parameters.unset_iff.2 hunset)

/-! ## What loads and cleanups report -/

/-- A load reports the first absent parameter, and if there is none the first
    row that cannot be sent, unless there are no rows. -/
theorem Load.prepare_eq_error_iff {label : String} {q : Query} {indexes : List Index}
    {rows : List Row} {p : Parameters} {o : SyncOptions} {e : RunError} :
    Load.prepare label q indexes rows p o = .error e ↔ rows ≠ [] ∧
      ((∃ name, p.FirstAbsent (callerParameters q) name ∧ e = .missingParameter label name) ∨
        (∀ name ∈ callerParameters q, p.contains name = true) ∧
          ∃ index reason, FirstRefused rows index reason ∧ e = .invalidRow index reason) := by
  have hrequire : p.require label (callerParameters q) = .error e ↔ _ :=
    p.require_eq_error_iff (callerParameters_pairwise q) label
  have hgiven : p.require label (callerParameters q) = .ok () ↔ _ :=
    Parameters.require_eq_ok label
  unfold prepare
  by_cases hrows : rows = []
  · simp [hrows]
  · rw [if_neg (by simpa using hrows), ← hrequire, ← hgiven]
    cases p.require label (callerParameters q) with
    | error e' => simp [hrows, bind, Except.bind]
    | ok u =>
      rw [← checkRows_eq_error_iff]
      cases checkRows rows with
      | error e' => simp [hrows, bind, Except.bind]
      | ok checked => simp [bind, Except.bind, pure, Except.pure]

/-- A load reports what is due. -/
theorem Schema.load_eq_error_iff {schema : Schema} {rows : List Row} {p : Parameters}
    {o : SyncOptions} {e : RunError} : schema.load rows p o = .error e ↔ schema.Due rows p e := by
  -- the rows are looked at once all markers are set
  have hprepared (hset : ∀ marker ∈ schema.markers, ¬ p.Unset marker) (indexes : List Index) :
      Load.prepare schema.label schema.ingestion indexes rows p o = .error e ↔
        schema.Due rows p e := by
    rw [Load.prepare_eq_error_iff]
    constructor
    · rintro ⟨hrows, ⟨name, hfirst, rfl⟩ | ⟨hgiven, index, reason, hfirst, rfl⟩⟩
      · exact .parameter hset hrows hfirst
      · exact .row hset hrows hgiven hfirst
    · rintro (⟨hmarkers, -, hunset⟩ | ⟨-, hrows, hfirst⟩ | ⟨-, hrows, hgiven, hfirst⟩)
      · refine absurd hunset (hset _ ?_)
        rw [hmarkers]
        exact List.mem_append_right _ List.mem_cons_self
      · exact ⟨hrows, .inl ⟨_, hfirst, rfl⟩⟩
      · exact ⟨hrows, .inr ⟨hgiven, _, _, hfirst, rfl⟩⟩
  cases schema with
  | node s => exact hprepared (fun marker hmarker => absurd hmarker List.not_mem_nil) s.indexes
  | matchlink m =>
    show m.load rows p o = .error e ↔ _
    unfold Matchlink.load
    cases hscope : m.checkScope p with
    | ok u => exact hprepared (Matchlink.checkScope_eq_ok_iff.1 hscope) m.indexes
    | error e' =>
      constructor
      · intro h
        cases h
        obtain ⟨before, marker, after, hmarkers, hbefore, hmarker, rfl⟩ :=
          Matchlink.checkScope_eq_error_iff.1 hscope
        exact .marker hmarkers hbefore hmarker
      · rintro (⟨hmarkers, hbefore, hmarker⟩ | ⟨hset, -, -⟩ | ⟨hset, -, -, -⟩)
        · have herror := Matchlink.checkScope_eq_error_iff.2
            ⟨_, _, _, hmarkers, hbefore, hmarker, rfl⟩
          rw [hscope] at herror
          cases herror
          rfl
        · rw [Matchlink.checkScope_eq_ok_iff.2 hset] at hscope
          cases hscope
        · rw [Matchlink.checkScope_eq_ok_iff.2 hset] at hscope
          cases hscope

/-- The first query that lacks a parameter is reported. -/
theorem CleanupJob.checkParameters_eq_error_iff {label : String} {p : Parameters}
    {qs : List Query} {e : RunError} :
    checkParameters label p qs = .error e ↔ ∃ before q after name, qs = before ++ q :: after ∧
      (∀ other ∈ before, ∀ name ∈ callerParameters other, p.contains name = true) ∧
        p.FirstAbsent (callerParameters q) name ∧ e = .missingParameter label name := by
  induction qs with
  | nil =>
    simp only [checkParameters, reduceCtorEq, false_iff]
    rintro ⟨before, q, after, name, hqs, -⟩
    exact absurd hqs (by simp)
  | cons q rest ih =>
    rw [checkParameters]
    cases hrequire : p.require label (callerParameters q) with
    | error e' =>
      obtain ⟨name, hfirst, rfl⟩ :=
        (p.require_eq_error_iff (callerParameters_pairwise q) label).1 hrequire
      constructor
      · intro h
        cases h
        exact ⟨[], q, rest, name, rfl, fun _ hnil => absurd hnil List.not_mem_nil, hfirst, rfl⟩
      · rintro ⟨before, q', after, name', hqs, hbefore, hfirst', rfl⟩
        cases before with
        | nil =>
          cases hqs
          rw [hfirst.unique hfirst']
          rfl
        | cons first before =>
          -- nothing that stands before the query that is reported lacks a parameter
          cases hqs
          have hgiven := hbefore q List.mem_cons_self name hfirst.mem
          rw [hfirst.absent] at hgiven
          cases hgiven
    | ok u =>
      have hgiven := (Parameters.require_eq_ok label).1 hrequire
      show checkParameters label p rest = .error e ↔ _
      rw [ih]
      constructor
      · rintro ⟨before, q', after, name, rfl, hbefore, hfirst, rfl⟩
        exact ⟨q :: before, q', after, name, rfl, List.forall_mem_cons.2 ⟨hgiven, hbefore⟩,
          hfirst, rfl⟩
      · rintro ⟨before, q', after, name, hqs, hbefore, hfirst, rfl⟩
        cases before with
        | nil =>
          cases hqs
          have hpresent := hgiven name hfirst.mem
          rw [hfirst.absent] at hpresent
          cases hpresent
        | cons first before =>
          cases hqs
          exact ⟨before, q', after, name, rfl, (List.forall_mem_cons.1 hbefore).2, hfirst, rfl⟩

theorem CleanupJob.ofNodeSchema_eq_error_iff {s : NodeSchema} {p : Parameters} {e : RunError} :
    ofNodeSchema s p = .error e ↔ s.CleanupDue p e := by
  have hcheck : ofNodeSchema s p = .error e ↔ checkParameters s.label p s.cleanup = .error e := by
    unfold ofNodeSchema
    cases checkParameters s.label p s.cleanup with
    | error e' => simp [bind, Except.bind]
    | ok u => simp [bind, Except.bind, pure, Except.pure]
  rw [hcheck, checkParameters_eq_error_iff]
  constructor
  · rintro ⟨before, q, after, name, hqs, hbefore, hfirst, rfl⟩
    exact .parameter hqs hbefore hfirst
  · rintro ⟨hqs, hbefore, hfirst⟩
    exact ⟨_, _, _, _, hqs, hbefore, hfirst, rfl⟩

/-- The cleanup of a node schema is due an error when some statement lacks a
    parameter. -/
theorem NodeSchema.exists_cleanupDue_iff {s : NodeSchema} {p : Parameters} :
    (∃ e, s.CleanupDue p e) ↔
      ∃ q ∈ s.cleanup, ∃ name ∈ callerParameters q, p.contains name = false := by
  constructor
  · rintro ⟨e, ⟨hqs, -, hfirst⟩⟩
    refine ⟨_, ?_, _, hfirst.mem, hfirst.absent⟩
    rw [hqs]
    exact List.mem_append_right _ List.mem_cons_self
  · rintro ⟨q, hq, name, hname, habsent⟩
    cases hcheck : CleanupJob.checkParameters s.label p s.cleanup with
    | error e =>
      refine ⟨e, CleanupJob.ofNodeSchema_eq_error_iff.1 ?_⟩
      unfold CleanupJob.ofNodeSchema
      rw [hcheck]
      rfl
    | ok u =>
      have hpresent := CleanupJob.checkParameters_eq_ok.1 hcheck q hq name hname
      rw [habsent] at hpresent
      cases hpresent

/-! ## Calls with their outcome -/

/-- How a call of the caller ends, with a database that fails with `ε` and a
    summary of type `σ`. -/
inductive Ending (ε σ : Type) where
  /-- An error of the caller. -/
  | refused (e : RunError)
  /-- The database has failed. -/
  | failed (e : ε)
  | returned (summary : σ)
  /-- The next call to the database has no reply yet. -/
  | waiting (next : Call)

/-- The calls to the database that a call of the caller leads to, and its
    end. -/
structure Outcome (ε σ : Type) where
  calls  : List Call
  ending : Ending ε σ

variable {ε σ : Type}

/-- What becomes of stages, with a summary of the counts that come back. -/
def Transcript.outcome (t : Transcript ε) (summary : List Int64 → σ) : Outcome ε σ where
  calls  := t.calls
  ending :=
    match t.progress with
    | .finished => .returned (summary t.counts)
    | .failed e => .failed e
    | .waiting next => .waiting next

theorem Transcript.ending_of_finished {t : Transcript ε} (summary : List Int64 → σ)
    (h : t.progress = .finished) : (t.outcome summary).ending = .returned (summary t.counts) := by
  rw [outcome, h]

theorem Transcript.ending_eq_returned_iff {t : Transcript ε} (summary : List Int64 → σ) {x : σ} :
    (t.outcome summary).ending = .returned x ↔ t.progress = .finished ∧ summary t.counts = x := by
  unfold outcome
  cases t.progress <;> simp

theorem Transcript.ending_eq_waiting_iff {t : Transcript ε} (summary : List Int64 → σ)
    {next : Call} : (t.outcome summary).ending = .waiting next ↔ t.progress = .waiting next := by
  unfold outcome
  cases t.progress <;> simp

/-- A call that is checked first. -/
def Outcome.ofChecked {α : Type} (checked : Except RunError α) (proceed : α → Outcome ε σ) :
    Outcome ε σ :=
  match checked with
  | .error e => { calls := [], ending := .refused e }
  | .ok a => proceed a

/-- A load of rows with the replies of a database. -/
def Schema.loading (schema : Schema) (rows : List Row) (p : Parameters) (o : SyncOptions)
    (replies : List (Reply ε)) : Outcome ε LoadSummary :=
  .ofChecked (schema.load rows p o) fun load =>
    (play load.stages replies).outcome fun _ => load.summary

/-- A cleanup job with the replies of a database. -/
def CleanupJob.running (job : CleanupJob) (o : SyncOptions) (replies : List (Reply ε)) :
    Outcome ε CleanupSummary :=
  (play (job.stages o) replies).outcome job.summary

/-- The cleanup of a node schema with the replies of a database. -/
def NodeSchema.cleaning (s : NodeSchema) (p : Parameters) (o : SyncOptions)
    (replies : List (Reply ε)) : Outcome ε CleanupSummary :=
  .ofChecked (CleanupJob.ofNodeSchema s p) fun job => job.running o replies

/-- The cleanup of a matchlink within one sub-resource with the replies of a
    database. -/
def Matchlink.cleaning (m : Matchlink) (scopeLabel : String) (scopeId : Json) (tag : Int64)
    (o : SyncOptions) (replies : List (Reply ε)) : Outcome ε CleanupSummary :=
  (CleanupJob.ofMatchlink m scopeLabel scopeId tag).running o replies

/-- `x.RefusesJust due`: the caller is told of an error just when it is due,
    and nothing has been sent then. -/
structure Outcome.RefusesJust (x : Outcome ε σ) (due : RunError → Prop) : Prop where
  refused : ∀ e, x.ending = .refused e ↔ due e
  unsent  : (∃ e, x.ending = .refused e) → x.calls = []

/-- Stages refuse nothing. -/
theorem Transcript.outcome_ne_refused (t : Transcript ε) (summary : List Int64 → σ)
    (e : RunError) : (t.outcome summary).ending ≠ .refused e := by
  unfold outcome
  cases t.progress <;> simp

/-- A call that is checked first refuses what the check does. -/
theorem Outcome.ofChecked_refusesJust {α : Type} {checked : Except RunError α}
    {proceed : α → Outcome ε σ} {due : RunError → Prop} (hdue : ∀ e, checked = .error e ↔ due e)
    (hproceed : ∀ a e, (proceed a).ending ≠ .refused e) :
    (ofChecked checked proceed).RefusesJust due := by
  cases checked with
  | error e' =>
    refine ⟨?_, fun _ => rfl⟩
    intro e
    rw [← hdue]
    simp [ofChecked]
  | ok a =>
    constructor
    · intro e
      rw [← hdue]
      simp [ofChecked, hproceed]
    · rintro ⟨e, h⟩
      exact absurd h (hproceed a e)

theorem Outcome.RefusesJust.eq_refused {x : Outcome ε σ} {due : RunError → Prop} {e : RunError}
    (h : x.RefusesJust due) (he : due e) : x = { calls := [], ending := .refused e } := by
  have hending := (h.refused e).2 he
  have hcalls := h.unsent ⟨e, hending⟩
  cases x
  cases hending
  cases hcalls
  rfl

/-- With the markers that it needs and without rows, a load comes to its end at
    once. -/
theorem Schema.loading_nil {schema : Schema} {p : Parameters} {o : SyncOptions}
    {replies : List (Reply ε)} (hset : ∀ marker ∈ schema.markers, ¬ p.Unset marker) :
    schema.loading [] p o replies =
      { calls := [], ending := .returned { rows := 0, batches := 0 } } := by
  have hload : schema.load [] p o =
      .ok { stages := [], summary := { rows := 0, batches := 0 } } := by
    cases schema with
    | node s => rfl
    | matchlink m =>
      show m.load [] p o = _
      unfold Matchlink.load
      rw [Matchlink.checkScope_eq_ok_iff.2 hset]
      rfl
  have hplay : play [] replies = { calls := [], counts := [], progress := .finished } := by
    rw [play]
  unfold loading Outcome.ofChecked
  rw [hload]
  dsimp only
  rw [hplay]
  rfl

/-- Whatever a database replies, a caller is refused just with what is due, and
    nothing has been sent then.  A load without rows, of which the markers are
    set, sends nothing either.  The cleanup of a node schema is refused just
    when some statement lacks a parameter, and that of a matchlink never. -/
theorem refused_when_due_and_before_any_call (p : Parameters) (o : SyncOptions)
    (replies : List (Reply ε)) :
    (∀ (schema : Schema) (rows : List Row),
      (schema.loading rows p o replies).RefusesJust (schema.Due rows p)) ∧
    (∀ schema : Schema, (∀ marker ∈ schema.markers, ¬ p.Unset marker) →
      schema.loading [] p o replies =
        { calls := [], ending := .returned { rows := 0, batches := 0 } }) ∧
    (∀ s : NodeSchema, (s.cleaning p o replies).RefusesJust (s.CleanupDue p)) ∧
    (∀ s : NodeSchema, (∃ e, s.CleanupDue p e) ↔
      ∃ q ∈ s.cleanup, ∃ name ∈ callerParameters q, p.contains name = false) ∧
    ∀ (m : Matchlink) (scopeLabel : String) (scopeId : Json) (tag : Int64),
      (m.cleaning scopeLabel scopeId tag o replies).RefusesJust fun _ => False := by
  refine ⟨?_, ?_, ?_, ?_, ?_⟩
  · intro schema rows
    exact Outcome.ofChecked_refusesJust (fun e => Schema.load_eq_error_iff)
      fun load => Transcript.outcome_ne_refused _ _
  · intro schema hset
    exact Schema.loading_nil hset
  · intro s
    exact Outcome.ofChecked_refusesJust (fun e => CleanupJob.ofNodeSchema_eq_error_iff)
      fun job => Transcript.outcome_ne_refused _ _
  · intro s
    exact NodeSchema.exists_cleanupDue_iff
  · intro m scopeLabel scopeId tag
    have hnever := Transcript.outcome_ne_refused
      (play ((CleanupJob.ofMatchlink m scopeLabel scopeId tag).stages o) replies)
      (CleanupJob.ofMatchlink m scopeLabel scopeId tag).summary
    exact ⟨fun e => iff_of_false (hnever e) id, fun ⟨e, h⟩ => absurd h (hnever e)⟩

/-- A load of hosts without their account, of which a row is no object either,
    is refused for the account, and so is their cleanup. -/
theorem hosts_without_account_are_refused :
    (Schema.node Sample.hosts).loading [.ok .null] (Parameters.forRun 1) {}
        ([] : List (Reply String)) =
      { calls := [], ending := .refused (.missingParameter "Host" "ACCOUNT") } ∧
    Sample.hosts.cleaning (Parameters.forRun 1) {} ([] : List (Reply String)) =
      { calls := [], ending := .refused (.missingParameter "Host" "ACCOUNT") } := by
  -- the account is the only parameter that is not there
  have hfirst (q : Query) (hreads : "ACCOUNT" ∈ clauseParams q)
      (hgiven : ∀ name ∈ clauseParams q, name = rowsParam ∨ name = limitParam ∨
        name = "ACCOUNT" ∨ (Parameters.forRun 1).contains name = true) :
      (Parameters.forRun 1).FirstAbsent (callerParameters q) "ACCOUNT" := by
    refine ⟨mem_callerParameters.2 ⟨hreads, by decide, by decide⟩, by decide, ?_⟩
    intro other hother habsent
    obtain ⟨hmem, hrows, hlimit⟩ := mem_callerParameters.1 hother
    rcases hgiven other hmem with heq | heq | rfl | hpresent
    · exact absurd heq hrows
    · exact absurd heq hlimit
    · exact String.le_refl _
    · rw [habsent] at hpresent
      cases hpresent
  have hload : (Schema.node Sample.hosts).Due [.ok .null] (Parameters.forRun 1)
      (.missingParameter "Host" "ACCOUNT") :=
    .parameter (fun _ hmarker => absurd hmarker List.not_mem_nil) (List.cons_ne_nil _ _)
      (hfirst _ (by decide) (by decide))
  have hcleanup : Sample.hosts.CleanupDue (Parameters.forRun 1)
      (.missingParameter "Host" "ACCOUNT") :=
    .parameter (show Sample.hosts.cleanup = [] ++ _ from rfl)
      (fun _ hother => absurd hother List.not_mem_nil) (hfirst _ (by decide) (by decide))
  obtain ⟨hloads, -, hcleanups, -, -⟩ := refused_when_due_and_before_any_call
    (Parameters.forRun 1) {} ([] : List (Reply String))
  exact ⟨(hloads _ _).eq_refused hload, (hcleanups _).eq_refused hcleanup⟩

end GraphSync
