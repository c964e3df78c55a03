import GraphSync.Definition.Basic
import GraphSync.Proofs.Cleanup.Job
import Mathlib.Data.List.Forall2

/-! # Definitions describe schemas

    A schema can be written out as a definition, part by part (`ofSchema`).
    Two things are shown about that and about reading definitions:

    - what is written out is read back as the same schema, so nothing that the
      builders accept is out of reach of a definition file, and nothing is lost
      or reordered on the way;
    - what any definition is read as agrees with the definition entry by entry
      (`Describes`), and a definition that contradicts itself is not read.

    Both halves are in `definitions_describe_schemas`. -/

namespace GraphSync

/-! ## Lists that are read item by item -/

section items
variable {ε α β : Type} {f : α → Except ε β}

theorem Except.mapM_eq_ok_iff {xs : List α} {ys : List β} :
    xs.mapM f = .ok ys ↔ List.Forall₂ (fun x y => f x = .ok y) xs ys := by
  constructor
  · intro h
    induction xs generalizing ys with
    | nil =>
      cases h
      exact .nil
    | cons x xs ih =>
      rw [List.mapM_cons] at h
      obtain ⟨y, hy, h⟩ := Except.of_bind_ok h
      obtain ⟨zs, hzs, h⟩ := Except.of_bind_ok h
      cases h
      exact .cons hy (ih hzs)
  · intro h
    induction h with
    | nil => rfl
    | cons hy _ ih =>
      rw [List.mapM_cons, hy, ih]
      rfl

/-- Items that are read as what they were written from. -/
theorem Except.mapM_map_ok {write : β → α} {ys : List β} (h : ∀ y ∈ ys, f (write y) = .ok y) :
    (ys.map write).mapM f = .ok ys :=
  Except.mapM_eq_ok_iff.2 (List.forall₂_map_left_iff.2 (List.forall₂_same.2 h))

end items

/-! ## Entries -/

/-- The flag that chooses a mode; an exact match has none. -/
def MatchMode.flag? : MatchMode → Option MatchFlag
  | .exact => none
  | .ignoreCase => some .ignoreCase
  | .fuzzy => some .fuzzyAndIgnoreCase
  | .oneToMany => some .oneToMany

/-- A field, written out. -/
def Entry.ofField (field : String × Reference) : Entry where
  name := field.1
  source := some field.2.name
  fromParameter := field.2.isParameter
  extraIndex := field.2.extraIndex
  ignoreCase := field.2.mode = .ignoreCase
  fuzzyAndIgnoreCase := field.2.mode = .fuzzy
  oneToMany := field.2.mode = .oneToMany

/-- An entry and the field it stands for. -/
structure Entry.Describes (e : Entry) (field : String × Reference) : Prop where
  key    : field.1 = e.name
  /-- The reference reads what the entry names, and by default its own key. -/
  name   : field.2.name = e.source.getD e.name
  origin : field.2.isParameter = e.fromParameter
  index  : field.2.extraIndex = e.extraIndex
  /-- The flag of the mode is set, and no other. -/
  mode   : e.matchFlags = field.2.mode.flag?.toList

/-- Two of the flags that choose a mode are set. -/
def Entry.Conflicting (e : Entry) : Prop :=
  (e.ignoreCase ∧ e.fuzzyAndIgnoreCase) ∨ (e.ignoreCase ∧ e.oneToMany) ∨
    (e.fuzzyAndIgnoreCase ∧ e.oneToMany)

theorem Entry.toReference_ofField (field : String × Reference) :
    (Entry.ofField field).toReference = .ok field.2 := by
  obtain ⟨key, name, origin, mode, index⟩ := field
  cases origin <;> cases mode <;> rfl

theorem MatchFlag.flag?_mode (flag : MatchFlag) : flag.mode.flag? = some flag := by
  cases flag <;> rfl

theorem Entry.describes_of_toReference {e : Entry} {r : Reference} (h : e.toReference = .ok r) :
    e.Describes (e.name, r) := by
  have horigin : decide ((if e.fromParameter then Origin.parameter else Origin.row) = .parameter)
      = e.fromParameter := by
    cases e.fromParameter <;> rfl
  -- there is one case for each number of flags: none, one, and more
  rcases hflags : e.matchFlags with _ | ⟨flag, _ | ⟨second, rest⟩⟩
  · simp only [Entry.toReference, hflags] at h
    cases h
    exact ⟨rfl, rfl, horigin, rfl, hflags⟩
  · simp only [Entry.toReference, hflags] at h
    cases h
    refine ⟨rfl, rfl, horigin, rfl, ?_⟩
    show e.matchFlags = flag.mode.flag?.toList
    rw [hflags, MatchFlag.flag?_mode, Option.toList_some]
  · simp only [Entry.toReference, hflags] at h
    cases h

/-- A mode has one flag at most, so an entry that describes a field sets no
    two. -/
theorem Entry.Describes.not_conflicting {e : Entry} {field : String × Reference}
    (h : e.Describes field) : ¬ e.Conflicting := by
  intro hconflict
  have hlength : e.matchFlags.length ≤ 1 := by
    rw [h.mode]
    cases field.2.mode.flag? <;> simp
  unfold Entry.matchFlags at hlength
  rcases hconflict with ⟨h₁, h₂⟩ | ⟨h₁, h₂⟩ | ⟨h₁, h₂⟩
  all_goals
    simp only [h₁, h₂, if_true, List.length_append, List.length_singleton] at hlength
    omega

/-! ## Fields -/

/-- Fields, written out in their order. -/
def Fields.entries (fields : Fields) : List Entry := fields.map Entry.ofField

theorem fieldsOfEntries_entries (fields : Fields) :
    fieldsOfEntries fields.entries = .ok fields := by
  refine Except.mapM_map_ok ?_
  intro field _
  rw [Entry.toReference_ofField]
  rfl

theorem forall₂_of_fieldsOfEntries {entries : List Entry} {fields : Fields}
    (h : fieldsOfEntries entries = .ok fields) : List.Forall₂ Entry.Describes entries fields := by
  refine (Except.mapM_eq_ok_iff.1 h).imp ?_
  intro e field hfield
  cases hr : e.toReference with
  | error err =>
    rw [hr] at hfield
    cases hfield
  | ok r =>
    rw [hr] at hfield
    cases hfield
    exact Entry.describes_of_toReference hr

theorem not_conflicting_of_forall₂ {entries : List Entry} {fields : Fields}
    (h : List.Forall₂ Entry.Describes entries fields) : ∀ e ∈ entries, ¬ e.Conflicting :=
  ((List.forall₂_and_left _ _).1 (h.imp fun _ _ he => ⟨he.not_conflicting, he⟩)).1

/-! ## Relationships -/

namespace RelationshipDefinition

/-- A relationship, written out with its source if it has one. -/
def ofRelationship (rel : Relationship) : RelationshipDefinition where
  label := rel.label
  direction := rel.direction
  target := rel.target.label
  matcher := rel.target.matcher.entries
  properties := rel.properties.entries
  source := rel.source.map (·.label)
  sourceMatcher := rel.source.elim [] fun source => source.matcher.entries

/-- A definition and the relationship it stands for. -/
structure Describes (d : RelationshipDefinition) (rel : Relationship) : Prop where
  label         : rel.label = d.label
  direction     : rel.direction = d.direction
  target        : rel.target.label = d.target
  matcher       : List.Forall₂ Entry.Describes d.matcher rel.target.matcher
  properties    : List.Forall₂ Entry.Describes d.properties rel.properties
  source        : rel.source.map (·.label) = d.source
  sourceMatcher : ∀ source ∈ rel.source,
    List.Forall₂ Entry.Describes d.sourceMatcher source.matcher

/-- The entries that are used; those of a source matcher are not, unless there
    is a source. -/
def entries (d : RelationshipDefinition) : List Entry :=
  d.matcher ++ d.properties ++ if d.source.isSome then d.sourceMatcher else []

/-- Nothing is said about a source. -/
def Sourceless (d : RelationshipDefinition) : Prop := d.source = none ∧ d.sourceMatcher = []

theorem draft_ofRelationship (rel : Relationship) :
    (ofRelationship rel).draft = .ok { rel.redraft with source := none } := by
  unfold draft
  simp only [ofRelationship, fieldsOfEntries_entries]
  rfl

theorem build_ofRelationship {rel : Relationship} (h : rel.Built) (hsource : rel.source = none) :
    (ofRelationship rel).build = .ok rel := by
  have hredraft : ({ rel.redraft with source := none } : Relationship.Draft) = rel.redraft := by
    simp only [Relationship.redraft, hsource]
  have hrefused : ((ofRelationship rel).source.isSome ||
      !(ofRelationship rel).sourceMatcher.isEmpty) = false := by
    simp [ofRelationship, hsource]
  unfold build
  rw [hrefused, draft_ofRelationship, hredraft]
  exact h.build_redraft

theorem buildMatchlink_ofRelationship {m : Matchlink} (h : m.Built) :
    (ofRelationship m.relationship).buildMatchlink = .ok m := by
  have hsource : (ofRelationship m.relationship).sourceEndpoint = .ok m.relationship.source := by
    unfold sourceEndpoint
    cases hs : m.relationship.source with
    | none => simp [ofRelationship, hs]
    | some source =>
      simp only [ofRelationship, hs, Option.map_some, Option.elim_some, fieldsOfEntries_entries]
      rfl
  unfold buildMatchlink
  rw [draft_ofRelationship, hsource]
  show (m.relationship.redraft.build >>= Matchlink.ofRelationship) = .ok m
  rw [h.relationship.build_redraft]
  exact h.link

/-! ### What a definition is read as -/

theorem describes_of_draft {d : RelationshipDefinition} {draft : Relationship.Draft}
    (hdraft : d.draft = .ok draft) {source : Option Endpoint} {rel : Relationship}
    (hbuild : { draft with source }.build = .ok rel)
    (hlabel : source.map (·.label) = d.source)
    (hmatcher : ∀ e ∈ source, List.Forall₂ Entry.Describes d.sourceMatcher e.matcher) :
    d.Describes rel := by
  obtain ⟨matcher, htarget, hdraft⟩ := Except.of_bind_ok hdraft
  obtain ⟨properties, hproperties, hdraft⟩ := Except.of_bind_ok hdraft
  cases hdraft
  -- the draft is the relationship's own, so its fields can be compared one by one
  have heq := Relationship.Draft.eq_redraft hbuild
  obtain ⟨hl, hd, ht, hp, hs⟩ := Relationship.Draft.mk.inj heq
  have ht := Option.some.inj ht
  refine ⟨hl.symm, hd.symm, by rw [← ht], ?_, ?_, by rw [← hs]; exact hlabel, ?_⟩
  · rw [← ht]
    exact forall₂_of_fieldsOfEntries htarget
  · rw [← hp]
    exact forall₂_of_fieldsOfEntries hproperties
  · rw [← hs]
    exact hmatcher

theorem describes_of_build {d : RelationshipDefinition} {rel : Relationship}
    (h : d.build = .ok rel) : d.Sourceless ∧ d.Describes rel := by
  unfold build at h
  split at h
  · cases h
  · next hsource =>
    have hless : d.Sourceless := by
      simpa [Sourceless] using hsource
    obtain ⟨draft, hdraft, h⟩ := Except.of_bind_ok h
    have hnone : { draft with source := none } = draft := by
      obtain ⟨_, -, hdraft⟩ := Except.of_bind_ok hdraft
      obtain ⟨_, -, hdraft⟩ := Except.of_bind_ok hdraft
      cases hdraft
      rfl
    rw [← hnone] at h
    exact ⟨hless, describes_of_draft hdraft h hless.1.symm (by simp)⟩

theorem describes_of_buildMatchlink {d : RelationshipDefinition} {m : Matchlink}
    (h : d.buildMatchlink = .ok m) :
    d.Describes m.relationship ∧ m.relationship.source = some m.source := by
  obtain ⟨draft, hdraft, h⟩ := Except.of_bind_ok h
  obtain ⟨source, hsource, h⟩ := Except.of_bind_ok h
  obtain ⟨rel, hbuild, h⟩ := Except.of_bind_ok h
  have hlink := Matchlink.eq_of_ofRelationship h
  rw [hlink.1]
  refine ⟨?_, hlink.2⟩
  unfold sourceEndpoint at hsource
  split at hsource
  · next hnone =>
    cases hsource
    exact describes_of_draft hdraft hbuild hnone.symm (by simp)
  · next label hlabel =>
    obtain ⟨matcher, hmatcher, hsource⟩ := Except.of_bind_ok hsource
    cases hsource
    refine describes_of_draft hdraft hbuild hlabel.symm ?_
    intro e he
    cases he
    exact forall₂_of_fieldsOfEntries hmatcher

theorem Describes.not_conflicting {d : RelationshipDefinition} {rel : Relationship}
    (h : d.Describes rel) : ∀ e ∈ d.entries, ¬ e.Conflicting := by
  intro e he
  rcases List.mem_append.1 he with he | he
  · rcases List.mem_append.1 he with he | he
    · exact not_conflicting_of_forall₂ h.matcher e he
    · exact not_conflicting_of_forall₂ h.properties e he
  · by_cases hsource : d.source.isSome
    · rw [if_pos hsource] at he
      rw [← h.source, Option.isSome_map, Option.isSome_iff_exists] at hsource
      obtain ⟨source, hs⟩ := hsource
      exact not_conflicting_of_forall₂ (h.sourceMatcher source hs) e he
    · rw [if_neg hsource] at he
      cases he

end RelationshipDefinition

/-! ## Nodes -/

namespace NodeDefinition

/-- A node schema, written out. -/
def ofSchema (s : NodeSchema) : NodeDefinition where
  label := s.label
  extraLabels := s.extraLabels
  properties := s.properties.entries
  subResource := s.subResource?.map RelationshipDefinition.ofRelationship
  otherRelationships := s.others.map RelationshipDefinition.ofRelationship
  scopedCleanup := s.scopedCleanup

/-- A definition and the node schema it stands for. -/
structure Describes (d : NodeDefinition) (s : NodeSchema) : Prop where
  label         : s.label = d.label
  extraLabels   : s.extraLabels = d.extraLabels
  properties    : List.Forall₂ Entry.Describes d.properties s.properties
  subResource   : Option.Rel RelationshipDefinition.Describes d.subResource s.subResource?
  others        : List.Forall₂ RelationshipDefinition.Describes d.otherRelationships s.others
  scopedCleanup : s.scopedCleanup = d.scopedCleanup

/-- The relationships, the one to the sub-resource first. -/
def relationships (d : NodeDefinition) : List RelationshipDefinition :=
  d.subResource.toList ++ d.otherRelationships

/-- The entries of the node and of its relationships. -/
def entries (d : NodeDefinition) : List Entry :=
  d.properties ++ d.relationships.flatMap RelationshipDefinition.entries

theorem build_ofSchema {s : NodeSchema} (h : s.Built)
    (hsource : ∀ rel ∈ s.relationships, rel.source = none) :
    (ofSchema s).build = .ok s := by
  have hrel : ∀ rel ∈ s.relationships,
      (RelationshipDefinition.ofRelationship rel).build = .ok rel := fun rel hmem =>
    RelationshipDefinition.build_ofRelationship (h.relationships rel hmem) (hsource rel hmem)
  have hsub : (ofSchema s).buildSubResource = .ok s.subResource? := by
    unfold buildSubResource
    cases hs : s.subResource? with
    | none => simp [ofSchema, hs]
    | some sub =>
      have hmem : sub ∈ s.relationships := by
        simp [NodeSchema.relationships, hs]
      simp only [ofSchema, hs, Option.map_some, hrel sub hmem]
      rfl
  have hothers : (ofSchema s).otherRelationships.mapM RelationshipDefinition.build
      = .ok s.others :=
    Except.mapM_map_ok fun rel hmem => hrel rel (List.mem_append_right _ hmem)
  unfold build
  rw [hsub, hothers]
  show (fieldsOfEntries s.properties.entries >>= _) = _
  rw [fieldsOfEntries_entries]
  exact h.build_redraft

theorem describes_of_build {d : NodeDefinition} {s : NodeSchema} (h : d.build = .ok s) :
    (∀ rel ∈ d.relationships, rel.Sourceless) ∧ d.Describes s := by
  obtain ⟨properties, hproperties, h⟩ := Except.of_bind_ok h
  obtain ⟨sub, hsub, h⟩ := Except.of_bind_ok h
  obtain ⟨others, hothers, h⟩ := Except.of_bind_ok h
  obtain ⟨hlabel, hprops, hextra, hsub?, hrest, hscoped⟩ :=
    NodeSchema.Draft.mk.inj (NodeSchema.Draft.eq_redraft h)
  -- the relationships are read one after the other
  have howner : (∀ rel ∈ d.subResource, rel.Sourceless) ∧
      Option.Rel RelationshipDefinition.Describes d.subResource sub := by
    unfold buildSubResource at hsub
    split at hsub
    · next hnone =>
      cases hsub
      rw [hnone]
      exact ⟨by simp, .none⟩
    · next rel hsome =>
      obtain ⟨r, hr, hsub⟩ := Except.of_bind_ok hsub
      cases hsub
      obtain ⟨hless, hread⟩ := RelationshipDefinition.describes_of_build hr
      rw [hsome]
      exact ⟨by simpa using hless, .some hread⟩
  have hlist := (List.forall₂_and_left _ _).1 ((Except.mapM_eq_ok_iff.1 hothers).imp fun _ _ hr =>
    RelationshipDefinition.describes_of_build hr)
  refine ⟨?_, hlabel.symm, hextra.symm, ?_, ?_, ?_, hscoped.symm⟩
  · intro rel hrel
    rcases List.mem_append.1 hrel with hrel | hrel
    · exact howner.1 rel (by simpa using hrel)
    · exact hlist.1 rel hrel
  · rw [← hprops]
    exact forall₂_of_fieldsOfEntries hproperties
  · rw [← hsub?]
    exact howner.2
  · rw [← hrest]
    exact hlist.2

/-- A definition with contradictory entries, its own or those of a
    relationship, is not read. -/
theorem Describes.not_conflicting {d : NodeDefinition} {s : NodeSchema} (h : d.Describes s) :
    ∀ e ∈ d.entries, ¬ e.Conflicting := by
  have hothers : ∀ rel ∈ d.otherRelationships, ∀ e ∈ rel.entries, ¬ e.Conflicting :=
    ((List.forall₂_and_left _ _).1 (h.others.imp fun _ _ hrel => ⟨hrel.not_conflicting, hrel⟩)).1
  intro e he
  rcases List.mem_append.1 he with he | he
  · exact not_conflicting_of_forall₂ h.properties e he
  · obtain ⟨rel, hrel, he⟩ := List.mem_flatMap.1 he
    rcases List.mem_append.1 hrel with hrel | hrel
    · have hsub := h.subResource
      rw [Option.mem_toList.1 hrel] at hsub
      generalize s.subResource? = sub at hsub
      cases hsub with
      | some hdescribes => exact hdescribes.not_conflicting e he
    · exact hothers rel hrel e he

end NodeDefinition

/-! ## Schemas -/

/-- No relationship that is written along with a node names a source; a
    matchlink always does. -/
def Schema.Sourceless : Schema → Prop
  | .node s => ∀ rel ∈ s.relationships, rel.source = none
  | .matchlink _ => True

namespace SchemaDefinition

/-- A schema of either kind, written out. -/
def ofSchema : Schema → SchemaDefinition
  | .node s => .node (.ofSchema s)
  | .matchlink m => .matchlink (.ofRelationship m.relationship)

/-- A definition and the schema it stands for. -/
def Describes : SchemaDefinition → Schema → Prop
  | .node d, .node s => d.Describes s
  | .matchlink d, .matchlink m =>
    d.Describes m.relationship ∧ m.relationship.source = some m.source
  | _, _ => False

/-- The entries that are used. -/
def entries : SchemaDefinition → List Entry
  | .node d => d.entries
  | .matchlink d => d.entries

/-- Only a matchlink says something about a source. -/
def Sourceless : SchemaDefinition → Prop
  | .node d => ∀ rel ∈ d.relationships, rel.Sourceless
  | .matchlink _ => True

theorem build_ofSchema {schema : Schema} (h : schema.Built) (hsource : schema.Sourceless) :
    (ofSchema schema).build = .ok schema := by
  cases schema with
  | node s =>
    show ((NodeDefinition.ofSchema s).build >>= fun s => .ok (Schema.node s)) = _
    rw [NodeDefinition.build_ofSchema h hsource]
    rfl
  | matchlink m =>
    show ((RelationshipDefinition.ofRelationship m.relationship).buildMatchlink >>=
      fun m => .ok (Schema.matchlink m)) = _
    rw [RelationshipDefinition.buildMatchlink_ofRelationship h]
    rfl

theorem describes_of_build {d : SchemaDefinition} {schema : Schema} (h : d.build = .ok schema) :
    d.Describes schema ∧ (∀ e ∈ d.entries, ¬ e.Conflicting) ∧ d.Sourceless := by
  cases d with
  | node d =>
    obtain ⟨s, hs, h⟩ := Except.of_bind_ok h
    cases h
    obtain ⟨hless, hdescribes⟩ := NodeDefinition.describes_of_build hs
    exact ⟨hdescribes, hdescribes.not_conflicting, hless⟩
  | matchlink d =>
    obtain ⟨m, hm, h⟩ := Except.of_bind_ok h
    cases h
    have hdescribes := RelationshipDefinition.describes_of_buildMatchlink hm
    exact ⟨hdescribes, hdescribes.1.not_conflicting, trivial⟩

end SchemaDefinition

/-- Definitions and builders give the same schemas.  A schema that the builders
    accept is read back from what is written out for it, and so compiles to the
    same statements.  What any definition is read as has one field for each
    entry, in the same order, and neither two match flags of one entry nor a
    source beside a node are ever read. -/
theorem definitions_describe_schemas :
    (∀ schema : Schema, schema.Built → schema.Sourceless →
      (SchemaDefinition.ofSchema schema).build = .ok schema) ∧
    (∀ (d : SchemaDefinition) (schema : Schema), d.build = .ok schema →
      d.Describes schema ∧ (∀ e ∈ d.entries, ¬ e.Conflicting) ∧ d.Sourceless) :=
  ⟨fun _ h hsource => SchemaDefinition.build_ofSchema h hsource,
    fun _ _ h => SchemaDefinition.describes_of_build h⟩

/-! ## A definition file -/

namespace Sample

/-- Who may open which bucket.  The principal is found by a field of its own
    name, the bucket whatever the case of its name. -/
def rights : SchemaDefinition :=
  .matchlink
    { label := "CAN_ACCESS", direction := .outward
      source := some "AWSPrincipal", sourceMatcher := [{ name := "principal_arn" }]
      target := "S3Bucket"
      matcher := [{ name := "name", source := some "BucketName", ignoreCase := true }]
      properties :=
        [{ name := lastUpdatedKey, fromParameter := true },
         { name := scopeLabelKey, fromParameter := true },
         { name := scopeIdKey, fromParameter := true }] }

end Sample

/-- The hosts are read back, and the access rights are read as they are
    written. -/
theorem hosts_and_access_are_described :
    ((Schema.node Sample.hosts).Built ∧ (Schema.node Sample.hosts).Sourceless ∧
      (SchemaDefinition.ofSchema (.node Sample.hosts)).build = .ok (.node Sample.hosts)) ∧
    ∃ schema, Sample.rights.build = .ok schema ∧ Sample.rights.Describes schema := by
  have hsource : (Schema.node Sample.hosts).Sourceless := by
    have hpair : ∀ rel ∈ Sample.hosts.relationships, rel.source = none := by decide
    exact hpair
  have hread : ∃ schema, Sample.rights.build = .ok schema := ⟨_, rfl⟩
  obtain ⟨schema, hschema⟩ := hread
  exact ⟨⟨Sample.hosts_built, hsource,
      definitions_describe_schemas.1 _ Sample.hosts_built hsource⟩,
    schema, hschema, (definitions_describe_schemas.2 _ _ hschema).1⟩

end GraphSync
