import GraphSync.Plan.Cleanup
import GraphSync.Run.Load

/-!
# Cleanup jobs

A cleanup job is the list of cleanup queries of a schema with the parameters of a run. Each query is
sent again and again, until it deletes less than a window.
-/

namespace GraphSync

/-- A cleanup job. -/
structure CleanupJob where
  label : String
  queries : List Cypher.Query
  params : Parameters

namespace CleanupJob

/-- Refuses parameters that lack one of those a list of queries reads, the first query first. -/
def checkParameters (label : String) (p : Parameters) : List Cypher.Query → Except RunError Unit
  | [] => .ok ()
  | q :: rest => do
    p.require label (Plan.callerParameters q)
    checkParameters label p rest

/-- The job of a node schema. -/
def ofNodeSchema (s : NodeSchema) (p : Parameters) : Except RunError CleanupJob := do
  checkParameters s.label p s.cleanup
  return { label := s.label, queries := s.cleanup, params := p }

/-- The job of a matchlink within one sub-resource. -/
def ofMatchlink (m : Matchlink) (scopeLabel : String) (scopeId : Json) (tag : Int64) :
    CleanupJob where
  label := m.relationship.label
  queries := [m.cleanup]
  params :=
    ((Dictionary.empty.insert updateTagParam (.ofInt64 tag)).insert scopeLabelKey
      (.string scopeLabel)).insert scopeIdKey scopeId

/-- The stage of one query. -/
def stage (p : Parameters) (window : UInt64) (q : Cypher.Query) : Stage where
  call := .fetchCount ({ text := q.text, params := p : Statement }.param limitParam
    (.ofUInt64 window)) deletedColumn
  window := some window.toNat

/-- The stages of a job. -/
def stages (job : CleanupJob) (o : SyncOptions) : List Stage :=
  job.queries.map (stage job.params o.window)

end CleanupJob

/-! ## Summaries -/

/-- What a cleanup did: the queries that came to an end, the windows, and the elements deleted. -/
structure CleanupSummary where
  statements : Nat
  windows : Nat
  deleted : UInt64
  deriving DecidableEq

/-- The summary of a job whose windows returned the given counts. A negative count deletes nothing,
and the sum is kept in a word. -/
def CleanupJob.summary (job : CleanupJob) (counts : List Int64) : CleanupSummary where
  statements := job.queries.length
  windows := counts.length
  deleted := counts.foldl (fun sum n => sum + UInt64.ofNat n.toInt.toNat) 0

end GraphSync
