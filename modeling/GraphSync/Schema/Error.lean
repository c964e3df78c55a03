/-!
# Schema errors

The reasons for which a schema or a definition of one is refused, and their wording.
-/

namespace GraphSync

/-- What carries properties or a matcher. -/
inductive Owner where
  | node (label : String)
  | relationship (label : String)
  deriving DecidableEq

/-- The wording of an owner. -/
def Owner.text : Owner → String
  | .node label => "Node '" ++ label ++ "'"
  | .relationship label => "Relationship '" ++ label ++ "'"

/-- The names that must not be empty. -/
inductive NameKind where
  | nodeLabel
  | extraLabel
  | relationshipLabel
  | targetLabel
  | sourceLabel
  | property
  deriving DecidableEq

/-- The wording of a kind of name. -/
def NameKind.text : NameKind → String
  | nodeLabel => "node label"
  | extraLabel => "extra label"
  | relationshipLabel => "relationship label"
  | targetLabel => "target label"
  | sourceLabel => "source label"
  | property => "property"

/-- The flags of a definition that choose how a field is matched. At most one may be set. -/
inductive MatchFlag where
  | ignoreCase
  | fuzzyAndIgnoreCase
  | oneToMany
  deriving DecidableEq

/-- The name of a flag. -/
def MatchFlag.text : MatchFlag → String
  | ignoreCase => "ignore_case"
  | fuzzyAndIgnoreCase => "fuzzy_and_ignore_case"
  | oneToMany => "one_to_many"

/-- Why a schema is refused. -/
inductive SchemaError where
  /-- A sub-resource owns the nodes, but cleanup is to ignore owners. -/
  | unscopedSubResource (label : String)
  /-- The owner would be looked up by a value of each row. -/
  | rowScopedSubResourceMatcher (label field : String)
  /-- The owner would be looked up by a comparison that several owners can meet. -/
  | nonExactSubResourceMatcher (label field : String) (mode : MatchFlag)
  | unexpectedSource (relationship : String)
  | conflictingMatchFlags (property : String) (first second : MatchFlag)
  | missingProperty (owner : Owner) (property : String)
  | propertyNotParameter (owner : Owner) (property : String)
  | scopeMarkerBinding (owner : Owner) (property : String)
  | duplicateProperty (owner : Owner) (property : String)
  | emptyMatcher (owner : Owner)
  | missingTarget (relationship : String)
  | missingSource (relationship : String)
  | emptyName (kind : NameKind)
  deriving DecidableEq

/-- The wording of a schema error. -/
def SchemaError.message : SchemaError → String
  | unscopedSubResource label =>
    "Node '" ++ label ++ "' has a sub-resource relationship but scoped_cleanup is false"
  | rowScopedSubResourceMatcher label field =>
    "Sub-resource matcher field '" ++ field ++ "' on node '" ++ label ++ "' must be set_in_kwargs"
  | nonExactSubResourceMatcher label field mode =>
    "Sub-resource matcher field '" ++ field ++ "' on node '" ++ label
      ++ "' must match exactly, not " ++ mode.text
  | unexpectedSource relationship =>
    "Relationship '" ++ relationship ++ "' declares a source node; only matchlinks have one"
  | conflictingMatchFlags property first second =>
    "Property '" ++ property ++ "' cannot combine " ++ first.text ++ " with " ++ second.text
  | missingProperty owner property =>
    owner.text ++ " is missing required property '" ++ property ++ "'"
  | propertyNotParameter owner property =>
    owner.text ++ " property '" ++ property ++ "' must be set_in_kwargs"
  | scopeMarkerBinding owner property =>
    owner.text ++ " scope marker '" ++ property ++ "' must read the run parameter of the same name"
  | duplicateProperty owner property =>
    owner.text ++ " declares property '" ++ property ++ "' more than once"
  | emptyMatcher owner => owner.text ++ " has an empty node matcher"
  | missingTarget relationship => "Relationship '" ++ relationship ++ "' has no target node"
  | missingSource relationship =>
    "Relationship '" ++ relationship
      ++ "' has no source node; matchlinks need a source label and matcher"
  | emptyName kind => "Empty " ++ kind.text ++ " name"

end GraphSync
