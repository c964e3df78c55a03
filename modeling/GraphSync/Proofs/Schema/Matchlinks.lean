import GraphSync.Proofs.Schema.Checks
import Mathlib.Data.List.Induction

/-! # Valid matchlinks

    A matchlink is checked twice: its relationship by the builder of
    relationships, and then its source and its scope markers.

    * `Draft.ofSteps` is the draft that a sequence of additions leaves: the
      last target, the last source and the last properties.
    * `Draft.ValidLink` says which drafts describe a matchlink that can be
      cleaned up for one sub-resource, without mention of the checks or their
      order.
    * `Draft.linkComplaints` lists the checks of both in order.  The run and
      the two markers are gone through before the names that the markers read. -/

namespace GraphSync

/-! ## Endpoints -/

/-- An endpoint that finds nodes of one label by some of their properties. -/
structure Endpoint.Valid (e : Endpoint) : Prop where
  label : e.label ≠ ""
  finds : e.matcher ≠ []
  keys  : ∀ key ∈ e.matcher.keys, key ≠ ""
  nodup : e.matcher.keys.Nodup

/-- The complaints about an endpoint, in the order in which they are made. -/
def Endpoint.complaints (e : Endpoint) (kind : NameKind) (owner : Owner) : List Complaint :=
  [fun err => e.label = "" ∧ err = .emptyName kind,
   fun err => e.matcher = [] ∧ err = .emptyMatcher owner,
   e.matcher.KeyComplaint owner]

theorem Endpoint.fails_check (e : Endpoint) (kind : NameKind) (owner : Owner) :
    Fails (e.check kind owner) (FirstOf (e.complaints kind owner)) := by
  have hlabel : e.label.isEmpty = true ↔ e.label = "" := by
    simp
  unfold check Fields.checkMatcher
  refine Fails.ite hlabel ?_
  refine Fails.ite List.isEmpty_iff ?_
  exact (Fields.fails_checkKeys e.matcher owner).alone

theorem Endpoint.valid_iff {e : Endpoint} {kind : NameKind} {owner : Owner} :
    e.Valid ↔ ∀ c ∈ e.complaints kind owner, ∀ err, ¬c err := by
  unfold complaints
  simp only [List.forall_mem_cons, List.not_mem_nil, false_imp_iff, implies_true, and_true,
    forall_not_complaint, Fields.forall_not_keyComplaint]
  exact ⟨fun h => ⟨h.label, h.finds, h.keys, h.nodup⟩, fun h => ⟨h.1, h.2.1, h.2.2.1, h.2.2.2⟩⟩

/-! ## Parameters -/

namespace Fields

variable {fields : Fields} {owner : Owner} {key : String}

/-- The complaint about a key that is absent or is read from rows. -/
def ParameterComplaint (fields : Fields) (owner : Owner) (key : String) : Complaint := fun e =>
  key ∉ fields.keys ∧ e = .missingProperty owner key ∨
    (∃ r, fields.get? key = some r ∧ r.isParameter = false) ∧ e = .propertyNotParameter owner key

theorem get?_eq_none_iff : fields.get? key = none ↔ key ∉ fields.keys := by
  rw [← has_iff, has, Option.not_isSome_iff_eq_none]

theorem fails_requireParameter (fields : Fields) (owner : Owner) (key : String) :
    Fails (fields.requireParameter owner key) (fields.ParameterComplaint owner key) := by
  intro e
  unfold requireParameter ParameterComplaint
  rw [← get?_eq_none_iff]
  -- either the key is not there, or it is and its origin is looked at
  cases fields.get? key with
  | none =>
    simp only [reduceCtorEq, false_and, exists_false, or_false, true_and, Except.error.injEq]
    exact eq_comm
  | some r =>
    simp only [reduceCtorEq, false_and, false_or, Option.some.injEq, exists_eq_left']
    split
    · next hr => simp [hr]
    · next hr =>
      simp only [hr, true_and, Except.error.injEq]
      exact eq_comm

theorem forall_not_parameterComplaint :
    (∀ e, ¬fields.ParameterComplaint owner key e) ↔
      ∃ r, fields.get? key = some r ∧ r.isParameter = true := by
  unfold ParameterComplaint
  simp only [not_or, forall_and, forall_not_complaint, ← get?_eq_none_iff]
  cases fields.get? key <;> simp

end Fields

/-- The complaint about a marker that reads another name than its own. -/
def Fields.BindingComplaint (fields : Fields) (owner : Owner) (marker : String) : Complaint :=
  fun e => (fields.get? marker).map Reference.name ≠ some marker ∧
    e = .scopeMarkerBinding owner marker

theorem Relationship.fails_checkMarker (rel : Relationship) (marker : String) :
    Fails (rel.checkMarker marker)
      (rel.properties.BindingComplaint (.relationship rel.label) marker) := by
  intro e
  unfold checkMarker Fields.BindingComplaint
  split
  · next h => exact ⟨fun he => (by cases he), fun he => absurd h he.1⟩
  · next h => exact ⟨fun he => (by cases he; exact ⟨h, rfl⟩), fun he => (by rw [he.2])⟩

theorem Relationship.fails_requireSource (rel : Relationship) :
    Fails rel.requireSource fun e => rel.source = none ∧ e = .missingSource rel.label := by
  intro e
  unfold requireSource
  cases rel.source with
  | none => simp [eq_comm]
  | some s => simp

namespace Relationship.Draft

/-! ## What a sequence of additions leaves -/

def Step.target? : Step → Option Endpoint
  | .target e => some e
  | _ => none

def Step.source? : Step → Option Endpoint
  | .source e => some e
  | _ => none

def Step.properties? : Step → Option Fields
  | .properties fields => some fields
  | _ => none

/-- The draft that a sequence of additions leaves. -/
def ofSteps (label : String) (direction : Direction) (steps : List Step) : Draft where
  label      := label
  direction  := direction
  target     := (steps.filterMap Step.target?).getLast?
  properties := (steps.filterMap Step.properties?).getLast?.getD []
  source     := (steps.filterMap Step.source?).getLast?

theorem foldl_add (label : String) (direction : Direction) (steps : List Step) :
    steps.foldl add { label, direction } = ofSteps label direction steps := by
  -- from the end, since the last addition decides
  induction steps using List.reverseRecOn with
  | nil => rfl
  | append_singleton steps step ih =>
    rw [List.foldl_append, ih]
    cases step <;>
      simp [ofSteps, add, List.filterMap_append, Step.target?, Step.source?, Step.properties?]

/-! ## What is accepted -/

/-- The drafts of matchlinks that stay in the scope of one sub-resource.  Both
    ends are found by their properties, the run is a parameter, and so are the
    two markers, each under its own name. -/
structure ValidLink (d : Draft) : Prop where
  label   : d.label ≠ ""
  target  : ∃ e, d.target = some e ∧ e.Valid
  source  : ∃ e, d.source = some e ∧ e.Valid
  keys    : ∀ key ∈ d.properties.keys, key ≠ ""
  nodup   : d.properties.keys.Nodup
  record  : ∃ r, (lastUpdatedKey, r) ∈ d.properties ∧ r.isParameter = true
  markers : ∀ marker ∈ [scopeLabelKey, scopeIdKey],
    ∃ r, (marker, r) ∈ d.properties ∧ r.isParameter = true ∧ r.name = marker

/-- `d.DescribesLink m`: the matchlink has what the draft says, unchanged. -/
structure DescribesLink (d : Draft) (m : Matchlink) : Prop where
  relationship : m.relationship.redraft = d
  source       : some m.source = d.source

theorem DescribesLink.unique {d : Draft} {m m' : Matchlink} (hm : d.DescribesLink m)
    (hm' : d.DescribesLink m') : m = m' := by
  have hrel := redraft_injective (hm.relationship.trans hm'.relationship.symm)
  have hsource := Option.some.inj (hm.source.trans hm'.source.symm)
  obtain ⟨rel, source⟩ := m
  obtain ⟨rel', source'⟩ := m'
  cases hrel
  cases hsource
  rfl

/-! ## The checks -/

/-- The complaints of the builder of relationships. -/
def complaints (d : Draft) : List Complaint :=
  (fun e => d.label = "" ∧ e = .emptyName .relationshipLabel) ::
  (fun e => d.target = none ∧ e = .missingTarget d.label) ::
  ((d.target.toList.flatMap fun t => t.complaints .targetLabel (.relationship d.label)) ++
   ((d.source.toList.flatMap fun s => s.complaints .sourceLabel (.relationship d.label)) ++
    [d.properties.KeyComplaint (.relationship d.label),
     fun e => lastUpdatedKey ∉ d.properties.keys ∧
       e = .missingProperty (.relationship d.label) lastUpdatedKey]))

/-- The complaints about the source and the markers of a matchlink. -/
def scopeComplaints (d : Draft) : List Complaint :=
  [fun e => d.source = none ∧ e = .missingSource d.label,
   d.properties.ParameterComplaint (.relationship d.label) lastUpdatedKey,
   d.properties.ParameterComplaint (.relationship d.label) scopeLabelKey,
   d.properties.ParameterComplaint (.relationship d.label) scopeIdKey,
   d.properties.BindingComplaint (.relationship d.label) scopeLabelKey,
   d.properties.BindingComplaint (.relationship d.label) scopeIdKey]

/-- The complaints about the draft of a matchlink, in the order in which they
    are made. -/
def linkComplaints (d : Draft) : List Complaint := d.complaints ++ d.scopeComplaints

theorem fails_requireTarget (d : Draft) :
    Fails d.requireTarget fun e => d.target = none ∧ e = .missingTarget d.label := by
  intro e
  unfold requireTarget
  cases d.target with
  | none => simp [eq_comm]
  | some t => simp

theorem fails_checkSource (d : Draft) :
    Fails d.checkSource (FirstOf
      (d.source.toList.flatMap fun s => s.complaints .sourceLabel (.relationship d.label))) := by
  unfold checkSource
  cases d.source with
  | none => exact fails_pure
  | some s =>
    simp only [Option.toList_some, List.flatMap_singleton]
    exact s.fails_check .sourceLabel (.relationship d.label)

theorem fails_build (d : Draft) : Fails d.build (FirstOf d.complaints) := by
  unfold build complaints
  -- one check after the other, each for the complaint in front
  refine Fails.bind (NameKind.fails_check .relationshipLabel d.label) fun _ _ => ?_
  refine Fails.bind d.fails_requireTarget fun target htarget => ?_
  rw [requireTarget_eq_ok_iff.1 htarget]
  simp only [Option.toList_some, List.flatMap_singleton]
  refine Fails.append (target.fails_check .targetLabel (.relationship d.label)) fun _ _ => ?_
  refine Fails.append d.fails_checkSource fun _ _ => ?_
  refine Fails.bind (Fields.fails_checkKeys d.properties (.relationship d.label)) fun _ _ => ?_
  exact (Fields.fails_require d.properties (.relationship d.label) lastUpdatedKey).alone.map _

/-- The draft as a matchlink: built as a relationship, and then checked as a
    matchlink. -/
def link (d : Draft) : Except SchemaError Matchlink := d.build >>= Matchlink.ofRelationship

theorem fails_ofRelationship {d : Draft} {rel : Relationship} (h : d.build = .ok rel) :
    Fails (Matchlink.ofRelationship rel) (FirstOf d.scopeComplaints) := by
  rw [eq_redraft h]
  unfold Matchlink.ofRelationship scopeComplaints redraft
  have hparam := Fields.fails_requireParameter rel.properties (.relationship rel.label)
  refine Fails.bind rel.fails_requireSource fun source _ => ?_
  refine Fails.bind (hparam lastUpdatedKey) fun _ _ => ?_
  refine Fails.bind (hparam scopeLabelKey) fun _ _ => ?_
  refine Fails.bind (hparam scopeIdKey) fun _ _ => ?_
  refine Fails.bind (rel.fails_checkMarker scopeLabelKey) fun _ _ => ?_
  exact (rel.fails_checkMarker scopeIdKey).alone.map _

theorem fails_link (d : Draft) : Fails d.link (FirstOf d.linkComplaints) :=
  d.fails_build.append fun _ => fails_ofRelationship

theorem forall_not_endpointComplaint {e? : Option Endpoint} {kind : NameKind} {owner : Owner} :
    (∀ c ∈ e?.toList.flatMap fun e => e.complaints kind owner, ∀ err, ¬c err) ↔
      ∀ e ∈ e?, e.Valid := by
  cases e? with
  | none => simp
  | some e =>
    simp only [Option.toList_some, List.flatMap_singleton, ← Endpoint.valid_iff, Option.mem_def,
      Option.some.injEq, forall_eq']

theorem exists_valid_iff {e? : Option Endpoint} :
    (∃ e, e? = some e ∧ e.Valid) ↔ e? ≠ none ∧ ∀ e ∈ e?, e.Valid := by
  cases e? <;> simp

/-- A marker passes both of its checks if it reads the parameter of its own
    name. -/
theorem marker_iff {fields : Fields} (hnodup : fields.keys.Nodup) {marker : String} :
    (∃ r, (marker, r) ∈ fields ∧ r.isParameter = true ∧ r.name = marker) ↔
      (∃ r, fields.get? marker = some r ∧ r.isParameter = true) ∧
        (fields.get? marker).map Reference.name = some marker := by
  simp only [← Fields.get?_eq_some_iff hnodup, Option.map_eq_some_iff]
  constructor
  · rintro ⟨r, hget, hparam, hname⟩
    exact ⟨⟨r, hget, hparam⟩, r, hget, hname⟩
  · -- both checks have looked up the same field
    rintro ⟨⟨r, hget, hparam⟩, r', hget', hname⟩
    obtain rfl : r = r' := Option.some.inj (hget.symm.trans hget')
    exact ⟨r, hget, hparam, hname⟩

/-- The valid drafts of matchlinks are those that nothing can be said against. -/
theorem validLink_iff {d : Draft} : d.ValidLink ↔ ∀ c ∈ d.linkComplaints, ∀ e, ¬c e := by
  unfold linkComplaints complaints scopeComplaints Fields.BindingComplaint
  simp only [List.forall_mem_append, List.forall_mem_cons, List.not_mem_nil, false_imp_iff,
    implies_true, and_true, forall_not_complaint, forall_not_endpointComplaint,
    Fields.forall_not_keyComplaint, Fields.forall_not_parameterComplaint, not_not]
  constructor
  · intro h
    have hmarker := fun marker hmem => (marker_iff h.nodup).1 (h.markers marker hmem)
    simp only [List.forall_mem_cons] at hmarker
    obtain ⟨hlabel, hid, -⟩ := hmarker
    obtain ⟨r, hrecord, hparam⟩ := h.record
    obtain ⟨htarget, htargets⟩ := exists_valid_iff.1 h.target
    obtain ⟨hsource, hsources⟩ := exists_valid_iff.1 h.source
    exact ⟨⟨h.label, htarget, htargets, hsources, ⟨h.keys, h.nodup⟩,
      List.mem_map.2 ⟨_, hrecord, rfl⟩⟩, hsource,
      ⟨r, (Fields.get?_eq_some_iff h.nodup).2 hrecord, hparam⟩, hlabel.1, hid.1, hlabel.2, hid.2⟩
  · rintro ⟨⟨hlabel, htarget, htargets, hsources, ⟨hkeys, hnodup⟩, -⟩, hsource,
      ⟨r, hrecord, hparam⟩, hlabel₁, hid₁, hlabel₂, hid₂⟩
    refine ⟨hlabel, exists_valid_iff.2 ⟨htarget, htargets⟩, exists_valid_iff.2 ⟨hsource, hsources⟩,
      hkeys, hnodup, ⟨r, (Fields.get?_eq_some_iff hnodup).1 hrecord, hparam⟩, ?_⟩
    simp only [List.forall_mem_cons, List.not_mem_nil, false_imp_iff, implies_true, and_true]
    exact ⟨(marker_iff hnodup).2 ⟨hlabel₁, hlabel₂⟩, (marker_iff hnodup).2 ⟨hid₁, hid₂⟩⟩

theorem describesLink_of_link {d : Draft} {m : Matchlink} (h : d.link = .ok m) :
    d.DescribesLink m := by
  obtain ⟨rel, hrel, hlink⟩ := Except.of_bind_ok h
  obtain ⟨rfl, hsource⟩ := Matchlink.eq_of_ofRelationship hlink
  have hredraft := eq_redraft hrel
  refine ⟨hredraft.symm, ?_⟩
  rw [hredraft]
  exact hsource.symm

/-- A draft is accepted as a matchlink if it is a valid one, and then nothing
    that it says is lost; otherwise the first complaint is reported. -/
theorem link_outcomes (d : Draft) :
    ((∃ m, d.link = .ok m) ↔ d.ValidLink) ∧
      (∀ m, d.link = .ok m ↔ d.ValidLink ∧ d.DescribesLink m) ∧
      ∀ e, d.link = .error e ↔ FirstOf d.linkComplaints e := by
  have hok : (∃ m, d.link = .ok m) ↔ d.ValidLink := by
    rw [validLink_iff]
    exact d.fails_link.exists_ok
  -- a draft describes one matchlink only, so the one it describes is the result
  refine ⟨hok, fun m => ⟨fun h => ⟨hok.1 ⟨m, h⟩, describesLink_of_link h⟩, ?_⟩, d.fails_link⟩
  rintro ⟨hvalid, hm⟩
  obtain ⟨m', hm'⟩ := hok.2 hvalid
  rw [hm.unique (describesLink_of_link hm')]
  exact hm'

end Relationship.Draft

/-! ## Accepted matchlinks -/

namespace Matchlink

variable {m : Matchlink}

theorem Built.link_redraft (h : m.Built) : m.relationship.redraft.link = .ok m := by
  unfold Relationship.Draft.link
  rw [h.relationship.build_redraft]
  exact h.link

theorem built_of_link {d : Relationship.Draft} (h : d.link = .ok m) : m.Built := by
  obtain ⟨rel, hrel, hlink⟩ := Except.of_bind_ok h
  obtain ⟨rfl, -⟩ := eq_of_ofRelationship hlink
  exact ⟨⟨d, hrel⟩, hlink⟩

/-- Each marker of an accepted matchlink reads the parameter of its own
    name. -/
theorem Built.exists_marker (h : m.Built) {marker : String}
    (hmarker : marker ∈ [scopeLabelKey, scopeIdKey]) :
    ∃ r, (marker, r) ∈ m.relationship.properties ∧ r.isParameter = true ∧ r.name = marker :=
  ((Relationship.Draft.link_outcomes _).1.1 ⟨m, h.link_redraft⟩).markers marker hmarker

end Matchlink

end GraphSync
