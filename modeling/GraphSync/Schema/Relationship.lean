import GraphSync.Schema.Fields
import GraphSync.Schema.Keys

/-!
# Relationship schemas

A relationship schema describes the relationships that are written between an owning node and the
nodes that a matcher finds. It is drafted first and checked once, by `Relationship.Draft.build`.
-/

namespace GraphSync

/-- Which way a relationship runs, seen from the node that owns it. -/
inductive Direction where
  | inward
  | outward
  deriving DecidableEq

/-- A node at the end of a relationship: its label, and the fields by which it is found. -/
structure Endpoint where
  label : String
  matcher : Fields
  deriving DecidableEq

/-- A relationship schema. Only a matchlink has a source of its own. -/
structure Relationship where
  label : String
  direction : Direction
  target : Endpoint
  properties : Fields
  source : Option Endpoint
  deriving DecidableEq

/-- A relationship schema that has not been checked. -/
structure Relationship.Draft where
  label : String
  direction : Direction
  target : Option Endpoint := none
  properties : Fields := []
  source : Option Endpoint := none
  deriving DecidableEq

/-! ## Drafting -/

/-- One addition to a draft. -/
inductive Relationship.Draft.Step where
  | target (e : Endpoint)
  | source (e : Endpoint)
  | properties (fields : Fields)
  deriving DecidableEq

/-- The draft with an addition, in place of an earlier one of its kind. -/
def Relationship.Draft.add (d : Relationship.Draft) : Step → Relationship.Draft
  | .target e => { d with target := some e }
  | .source e => { d with source := some e }
  | .properties fields => { d with properties := fields }

/-! ## Building -/

/-- Refuses an endpoint without a label, then one whose matcher is not fit. -/
def Endpoint.check (e : Endpoint) (kind : NameKind) (owner : Owner) : Except SchemaError Unit :=
  if e.label.isEmpty then .error (.emptyName kind) else e.matcher.checkMatcher owner

/-- Refuses a name that is empty. -/
def NameKind.check (kind : NameKind) (name : String) : Except SchemaError Unit :=
  if name.isEmpty then .error (.emptyName kind) else .ok ()

/-- The target of a draft, if it has one. -/
def Relationship.Draft.requireTarget (d : Relationship.Draft) : Except SchemaError Endpoint :=
  match d.target with
  | none => .error (.missingTarget d.label)
  | some target => .ok target

/-- Checks the source of a draft, if it has one. -/
def Relationship.Draft.checkSource (d : Relationship.Draft) : Except SchemaError Unit :=
  match d.source with
  | none => .ok ()
  | some source => source.check .sourceLabel (.relationship d.label)

/-- Checks a draft: the label, the target, the source, the keys of the properties, and that the run
is recorded. The first check that fails is the error. -/
def Relationship.Draft.build (d : Relationship.Draft) : Except SchemaError Relationship := do
  NameKind.relationshipLabel.check d.label
  let owner := Owner.relationship d.label
  let target ← d.requireTarget
  target.check .targetLabel owner
  d.checkSource
  d.properties.checkKeys owner
  d.properties.require owner lastUpdatedKey
  return { label := d.label, direction := d.direction, target,
           properties := d.properties, source := d.source }

end GraphSync
