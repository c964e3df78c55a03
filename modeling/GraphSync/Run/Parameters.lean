import GraphSync.Json.Basic
import GraphSync.Schema.Keys

/-!
# Run parameters

The values that a run binds to the parameters of its queries, shared by every row.
-/

namespace GraphSync

/-- Values by parameter name, in code point order. -/
abbrev Parameters := Dictionary Json

namespace Parameters

/-- The parameters of one run: its tag, as what nodes record and as what cleanup compares with. -/
def forRun (tag : Int64) : Parameters :=
  (Dictionary.empty.insert lastUpdatedKey (.ofInt64 tag)).insert updateTagParam (.ofInt64 tag)

/-- The first of some names that has no value. -/
def firstMissing (p : Parameters) (names : List String) : Option String :=
  names.find? fun name => !p.contains name

end Parameters

end GraphSync
