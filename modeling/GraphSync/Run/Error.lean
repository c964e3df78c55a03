/-!
# Run errors

The reasons for which a run is refused before it sends anything, and their wording.
-/

namespace GraphSync

/-- Why a run is refused. -/
inductive RunError where
  /-- A scope marker of a matchlink is absent or null. -/
  | missingScopeParameter (relationship name : String)
  | missingParameter (label name : String)
  /-- A row is no object; `reason` says what it is instead. -/
  | invalidRow (index : Nat) (reason : String)
  deriving DecidableEq

/-- The wording of a run error. -/
def RunError.message : RunError → String
  | missingScopeParameter relationship name =>
    "Matchlink '" ++ relationship ++ "' requires scope parameter '" ++ name ++ "'"
  | missingParameter label name => "'" ++ label ++ "' requires run parameter '" ++ name ++ "'"
  | invalidRow index reason => "Row " ++ toString index ++ " is not a JSON object: " ++ reason

end GraphSync
