import GraphSync.Cypher.Printer
import GraphSync.Json.Printer
import GraphSync.Plan.Indexes
import GraphSync.Plan.Ingestion
import GraphSync.Run.Call
import GraphSync.Run.Error
import GraphSync.Settings

/-!
# Loads

A load makes sure of the indexes of a schema and then sends its rows in batches. Everything that the
caller can get wrong is checked before the first call. Without rows nothing is sent.
-/

namespace GraphSync

/-! ## Checks -/

/-- Refuses the first required parameter that has no value. -/
def Parameters.require (p : Parameters) (label : String) (names : List String) :
    Except RunError Unit :=
  match p.firstMissing names with
  | some name => .error (.missingParameter label name)
  | none => .ok ()

/-- A row as a load gets it: a value, or the reason for which it could not be made one. -/
abbrev Row := Except String Json

/-- The rows from the given index on, each of them an object. -/
def checkRowsFrom (index : Nat) : List Row → Except RunError (List Json)
  | [] => .ok []
  | .error reason :: _ => .error (.invalidRow index reason)
  | .ok (.object members) :: rest =>
    (checkRowsFrom (index + 1) rest).map (.object members :: ·)
  | .ok other :: _ => .error (.invalidRow index ("got " ++ other.compact))

/-- The rows, each of them an object. -/
def checkRows (rows : List Row) : Except RunError (List Json) := checkRowsFrom 0 rows

/-- Refuses scope markers that are absent or null: a null marker writes no property, and the link
would lie outside of every cleanup. -/
def Matchlink.checkScope (m : Matchlink) (p : Parameters) : Except RunError Unit :=
  let isSet (marker : String) : Bool := (p.find? marker).any fun v => !v.isNull
  match [scopeLabelKey, scopeIdKey].find? fun marker => !isSet marker with
  | some marker => .error (.missingScopeParameter m.relationship.label marker)
  | none => .ok ()

/-! ## Stages -/

/-- The stages that make sure of indexes. -/
def indexStages (indexes : List Cypher.Index) : List Stage :=
  indexes.map fun index => { call := .run { text := index.text, params := .empty } }

/-- Rows in batches of `n`, the last of which may be shorter. A batch has at least one row, so 0
acts as 1. -/
def batches {α : Type} (n : Nat) : (rows : List α) → List (List α)
  | [] => []
  | row :: rest => (row :: rest.take (n - 1)) :: batches n (rest.drop (n - 1))
termination_by rows => rows.length
decreasing_by simp only [List.length_drop, List.length_cons]; omega

/-- The stage that sends a batch. -/
def batchStage (text : String) (p : Parameters) (batch : List Json) : Stage :=
  { call := .run ({ text, params := p : Statement }.param rowsParam (.array batch)) }

/-- What a load did. -/
structure LoadSummary where
  rows : Nat
  batches : Nat
  deriving DecidableEq

/-- A load that has passed all checks: its stages, and its summary once they are over. -/
structure Load where
  stages : List Stage
  summary : LoadSummary

/-- The load of rows by an ingestion query, after its own checks. -/
def Load.prepare (label : String) (ingestion : Cypher.Query) (indexes : List Cypher.Index)
    (rows : List Row) (p : Parameters) (o : SyncOptions) : Except RunError Load :=
  if rows.isEmpty then .ok { stages := [], summary := { rows := 0, batches := 0 } }
  else do
    p.require label (Plan.callerParameters ingestion)
    let rows ← checkRows rows
    let parts := batches o.batch.toNat rows
    return { stages := indexStages indexes ++ parts.map (batchStage ingestion.text p)
             summary := { rows := rows.length, batches := parts.length } }

/-- The load of rows of a node schema. -/
def NodeSchema.load (s : NodeSchema) (rows : List Row) (p : Parameters) (o : SyncOptions) :
    Except RunError Load :=
  Load.prepare s.label s.ingestion s.indexes rows p o

/-- The load of rows of a matchlink. Its scope is checked even when there are no rows. -/
def Matchlink.load (m : Matchlink) (rows : List Row) (p : Parameters) (o : SyncOptions) :
    Except RunError Load := do
  m.checkScope p
  Load.prepare m.relationship.label m.ingestion m.indexes rows p o

end GraphSync
