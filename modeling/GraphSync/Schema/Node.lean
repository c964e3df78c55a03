import GraphSync.Schema.Relationship

/-!
# Node schemas

A node schema describes the nodes of a label, their properties, and the relationships written along
with them. One relationship may be to the sub-resource that owns the nodes; cleanup then stays
within one owner.
-/

namespace GraphSync

/-- How far the cleanup of a node schema reaches. -/
inductive CleanupScope where
  /-- Nodes and relationships, within the sub-resource that owns the nodes. -/
  | subResource (relationship : Relationship)
  /-- Relationships only: without an owner no node is ever deleted. -/
  | relationshipsOnly
  /-- Nodes and relationships in the whole graph. -/
  | unscoped
  deriving DecidableEq

/-- A node schema. -/
structure NodeSchema where
  label : String
  properties : Fields
  extraLabels : List String
  scope : CleanupScope
  others : List Relationship
  deriving DecidableEq

/-- A node schema that has not been checked. -/
structure NodeSchema.Draft where
  label : String
  properties : Fields
  extraLabels : List String := []
  subResource : Option Relationship := none
  others : List Relationship := []
  scopedCleanup : Bool := true
  deriving DecidableEq

/-! ## Drafting -/

/-- One addition to a draft. -/
inductive NodeSchema.Draft.Step where
  | extraLabel (label : String)
  | subResource (r : Relationship)
  | other (r : Relationship)
  | scopedCleanup (chosen : Bool)
  deriving DecidableEq

/-- The draft with an addition. Labels and other relationships are added to those before; there is
one sub-resource and one choice of scoped cleanup, the last. -/
def NodeSchema.Draft.add (d : NodeSchema.Draft) : Step → NodeSchema.Draft
  | .extraLabel label => { d with extraLabels := d.extraLabels ++ [label] }
  | .subResource r => { d with subResource := some r }
  | .other r => { d with others := d.others ++ [r] }
  | .scopedCleanup chosen => { d with scopedCleanup := chosen }

/-! ## The scope of a cleanup -/

/-- The flag of a mode that several owners can meet. -/
def MatchMode.inexact? : MatchMode → Option MatchFlag
  | .fuzzy => some .fuzzyAndIgnoreCase
  | .oneToMany => some .oneToMany
  | .exact | .ignoreCase => none

/-- Refuses an owner that is found by a value of the row. -/
def checkOwnerOrigin (label : String) (matcher : Fields) : Except SchemaError Unit :=
  match matcher.find? fun entry => !entry.2.isParameter with
  | some (field, _) => .error (.rowScopedSubResourceMatcher label field)
  | none => .ok ()

/-- Refuses an owner that is found by an inexact comparison. -/
def checkOwnerMode (label : String) : Fields → Except SchemaError Unit
  | [] => .ok ()
  | (field, r) :: rest =>
    match r.mode.inexact? with
    | some flag => .error (.nonExactSubResourceMatcher label field flag)
    | none => checkOwnerMode label rest

/-- The scope that a sub-resource and the choice of scoped cleanup give. The owner must be fixed by
the run, and by a comparison that only one owner meets. -/
def CleanupScope.choose (label : String) :
    Option Relationship → Bool → Except SchemaError CleanupScope
  | some rel, true => do
    checkOwnerOrigin label rel.target.matcher
    checkOwnerMode label rel.target.matcher
    return .subResource rel
  | some _, false => .error (.unscopedSubResource label)
  | none, true => .ok .relationshipsOnly
  | none, false => .ok .unscoped

/-! ## Building -/

/-- Checks a draft: the label, the extra labels, the keys of the properties, that nodes have an
identity and record the run, and the scope. The first check that fails is the error. -/
def NodeSchema.Draft.build (d : NodeSchema.Draft) : Except SchemaError NodeSchema := do
  NameKind.nodeLabel.check d.label
  if d.extraLabels.any String.isEmpty then
    throw (.emptyName .extraLabel)
  let owner := Owner.node d.label
  d.properties.checkKeys owner
  d.properties.require owner idKey
  d.properties.require owner lastUpdatedKey
  let scope ← CleanupScope.choose d.label d.subResource d.scopedCleanup
  return { label := d.label, properties := d.properties, extraLabels := d.extraLabels, scope,
           others := d.others }

namespace NodeSchema

/-- The relationship to the owning sub-resource. -/
def subResource? (s : NodeSchema) : Option Relationship :=
  match s.scope with
  | .subResource rel => some rel
  | _ => none

/-- Whether cleanup is restricted at all. -/
def scopedCleanup (s : NodeSchema) : Bool :=
  match s.scope with
  | .unscoped => false
  | _ => true

/-- All relationships, the one to the sub-resource first. -/
def relationships (s : NodeSchema) : List Relationship := s.subResource?.toList ++ s.others

end NodeSchema

end GraphSync
