import GraphSync.Run.Assignment
import GraphSync.Run.Parameters

/-!
# Parameters from the command line

The run tag and the assignments of a command line make the parameters of a run. The cleanup of a
matchlink takes its scope from among them.
-/

namespace GraphSync.CommandLine

/-- The parameters of a run with a tag and further assignments, of which the last of a name
counts. -/
def runParameters (tag : Int64) (assignments : List Assignment) : Parameters :=
  (Parameters.forRun tag).insertMany (assignments.map fun a => (a.name, a.value))

/-- The sub-resource to which the cleanup of a matchlink is limited. -/
structure MatchlinkScope where
  label : String
  id : Json

/-- Why parameters hold no scope. -/
inductive ScopeError where
  /-- The label is absent or no string. -/
  | noLabel
  | noId
  deriving DecidableEq

/-- The wording of a scope error. -/
def ScopeError.message : ScopeError → String
  | noLabel => "Matchlink cleanup needs --param " ++ scopeLabelKey ++ "=<label>"
  | noId => "Matchlink cleanup needs --param " ++ scopeIdKey ++ "=<id>"

/-- The scope that parameters hold. -/
def matchlinkScope (p : Parameters) : Except ScopeError MatchlinkScope :=
  match (p.find? scopeLabelKey).bind Json.string?, p.find? scopeIdKey with
  | none, _ => .error .noLabel
  | some _, none => .error .noId
  | some label, some id => .ok { label, id }

end GraphSync.CommandLine
