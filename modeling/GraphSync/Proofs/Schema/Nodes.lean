import GraphSync.Proofs.Schema.Checks
import Mathlib.Data.List.Induction

/-! # Valid node schemas

    What the builder of node schemas accepts, what it makes of it, and which
    error it reports otherwise, for any sequence of additions to a draft.

    * `Draft.ofSteps` is the draft that a sequence leaves: the extra labels and
      the other relationships in order, the last sub-resource, and the last
      choice of scoped cleanup.
    * `Draft.Valid` says which drafts describe a schema that can be cleaned up
      safely, without mention of the checks or their order.
    * `Draft.complaints` lists the checks in order.  The matcher of an owner is
      gone through twice: a field that is read from rows is reported before an
      inexact one, even if it comes later. -/

namespace GraphSync

/-- `mode.SharedBy flag`: several owners can meet a field that is compared so,
    and the flag chose it. -/
inductive MatchMode.SharedBy : MatchMode → MatchFlag → Prop where
  | fuzzy     : SharedBy .fuzzy .fuzzyAndIgnoreCase
  | oneToMany : SharedBy .oneToMany .oneToMany

theorem MatchMode.sharedBy_iff {mode : MatchMode} {flag : MatchFlag} :
    mode.SharedBy flag ↔ mode.inexact? = some flag := by
  constructor
  · rintro ⟨⟩ <;> rfl
  · intro h
    cases mode with
    | exact => cases h
    | ignoreCase => cases h
    | fuzzy =>
      cases h
      exact .fuzzy
    | oneToMany =>
      cases h
      exact .oneToMany

theorem MatchMode.not_sharedBy_iff {mode : MatchMode} :
    (¬∃ flag, mode.SharedBy flag) ↔ mode = .exact ∨ mode = .ignoreCase := by
  simp only [sharedBy_iff]
  cases mode <;> simp [ MatchMode.inexact?]

namespace NodeSchema

namespace Draft

/-! ## What a sequence of additions leaves -/

def Step.extraLabel? : Step → Option String
  | .extraLabel label => some label
  | _ => none

def Step.subResource? : Step → Option Relationship
  | .subResource rel => some rel
  | _ => none

def Step.other? : Step → Option Relationship
  | .other rel => some rel
  | _ => none

def Step.scopedCleanup? : Step → Option Bool
  | .scopedCleanup chosen => some chosen
  | _ => none

/-- The draft that a sequence of additions leaves.  Cleanup is scoped unless
    the last choice says otherwise. -/
def ofSteps (label : String) (properties : Fields) (steps : List Step) : Draft where
  label         := label
  properties    := properties
  extraLabels   := steps.filterMap Step.extraLabel?
  subResource   := (steps.filterMap Step.subResource?).getLast?
  others        := steps.filterMap Step.other?
  scopedCleanup := (steps.filterMap Step.scopedCleanup?).getLast?.getD true

theorem foldl_add (label : String) (properties : Fields) (steps : List Step) :
    steps.foldl add { label, properties } = ofSteps label properties steps := by
  induction steps using List.reverseRecOn with
  | nil => rfl
  | append_singleton steps step ih =>
    rw [List.foldl_append, ih]
    cases step <;>
      simp [ofSteps, add, List.filterMap_append, Step.extraLabel?, Step.subResource?, Step.other?,
        Step.scopedCleanup?]

/-! ## What is accepted -/

/-- The drafts of safe schemas.  Every node has an identity and records the
    run, and an owner is the one that the run names. -/
structure Valid (d : Draft) : Prop where
  label       : d.label ≠ ""
  extraLabels : ∀ l ∈ d.extraLabels, l ≠ ""
  keys        : ∀ key ∈ d.properties.keys, key ≠ ""
  nodup       : d.properties.keys.Nodup
  id          : idKey ∈ d.properties.keys
  record      : lastUpdatedKey ∈ d.properties.keys
  cleanup     : ∀ sub ∈ d.subResource, d.scopedCleanup = true
  owner       : ∀ sub ∈ d.subResource, ∀ entry ∈ sub.target.matcher,
    entry.2.isParameter = true ∧ (entry.2.mode = .exact ∨ entry.2.mode = .ignoreCase)

/-- `d.Describes s`: the schema has what the draft says, unchanged, with the
    sub-resource in front of the other relationships. -/
structure Describes (d : Draft) (s : NodeSchema) : Prop where
  label         : s.label = d.label
  properties    : s.properties = d.properties
  extraLabels   : s.extraLabels = d.extraLabels
  subResource   : s.subResource? = d.subResource
  others        : s.others = d.others
  relationships : s.relationships = d.subResource.toList ++ d.others
  scopedCleanup : s.scopedCleanup = d.scopedCleanup

/-- The two questions about a scope determine it. -/
theorem Describes.unique {d : Draft} {s t : NodeSchema} (hs : d.Describes s)
    (ht : d.Describes t) : s = t := by
  have hsub := hs.subResource.trans ht.subResource.symm
  have hchosen := hs.scopedCleanup.trans ht.scopedCleanup.symm
  have hlabel := hs.label.trans ht.label.symm
  have hproperties := hs.properties.trans ht.properties.symm
  have hextra := hs.extraLabels.trans ht.extraLabels.symm
  have hothers := hs.others.trans ht.others.symm
  obtain ⟨_, _, _, scope, _⟩ := s
  obtain ⟨_, _, _, scope', _⟩ := t
  have hscope : scope = scope' := by
    cases scope <;> cases scope' <;> simp_all [NodeSchema.subResource?, NodeSchema.scopedCleanup]
  simp_all

/-! ## The checks -/

/-- The complaint about the first field of a matcher that is read from rows. -/
def RowFieldComplaint (label : String) (matcher : Fields) : Complaint := fun e =>
  ∃ entry, FirstWith (fun entry => entry.2.isParameter = false) matcher entry ∧
    e = .rowScopedSubResourceMatcher label entry.1

/-- The complaint about the first field of a matcher that several owners can
    meet. -/
def SharedFieldComplaint (label : String) (matcher : Fields) : Complaint := fun e =>
  ∃ entry flag, FirstWith (fun entry => ∃ flag, entry.2.mode.SharedBy flag) matcher entry ∧
    entry.2.mode.SharedBy flag ∧ e = .nonExactSubResourceMatcher label entry.1 flag

/-- The complaints about an owner and the choice of scoped cleanup. -/
def scopeComplaints (label : String) (sub? : Option Relationship) (chosen : Bool) :
    List Complaint :=
  [fun e => ((∃ sub, sub? = some sub) ∧ chosen = false) ∧ e = .unscopedSubResource label,
   fun e => ∃ sub ∈ sub?, RowFieldComplaint label sub.target.matcher e,
   fun e => ∃ sub ∈ sub?, SharedFieldComplaint label sub.target.matcher e]

/-- The complaints about a draft, in the order in which they are made. -/
def complaints (d : Draft) : List Complaint :=
  (fun e => d.label = "" ∧ e = .emptyName .nodeLabel) ::
  (fun e => "" ∈ d.extraLabels ∧ e = .emptyName .extraLabel) ::
  d.properties.KeyComplaint (.node d.label) ::
  (fun e => idKey ∉ d.properties.keys ∧ e = .missingProperty (.node d.label) idKey) ::
  (fun e => lastUpdatedKey ∉ d.properties.keys ∧
    e = .missingProperty (.node d.label) lastUpdatedKey) ::
  scopeComplaints d.label d.subResource d.scopedCleanup

theorem fails_checkOwnerOrigin (label : String) (matcher : Fields) :
    Fails (checkOwnerOrigin label matcher) (RowFieldComplaint label matcher) := by
  have hfind (entry : String × Reference) :
      matcher.find? (fun entry => !entry.2.isParameter) = some entry ↔
        FirstWith (fun entry => entry.2.isParameter = false) matcher entry := by
    rw [List.find?_eq_some_iff_append]
    unfold FirstWith
    simp only [Bool.not_eq_true', Bool.not_not, Bool.not_eq_false]
    tauto
  intro e
  unfold checkOwnerOrigin RowFieldComplaint
  simp only [← hfind]
  split
  · next field r h =>
    rw [Except.error.injEq, h]
    constructor
    · rintro rfl
      exact ⟨(field, r), rfl, rfl⟩
    · rintro ⟨entry, hentry, rfl⟩
      cases hentry
      rfl
  · next h => simp [h]

theorem fails_checkOwnerMode (label : String) (matcher : Fields) :
    Fails (checkOwnerMode label matcher) (SharedFieldComplaint label matcher) := by
  unfold SharedFieldComplaint
  induction matcher with
  | nil =>
    intro e
    refine ⟨fun h => (by cases h), ?_⟩
    rintro ⟨entry, flag, h, -⟩
    exact absurd h not_firstWith_nil
  | cons entry rest ih =>
    obtain ⟨field, r⟩ := entry
    intro e
    unfold checkOwnerMode
    split
    · next flag hflag =>
      have hshared := MatchMode.sharedBy_iff.2 hflag
      constructor
      · intro h
        cases h
        exact ⟨(field, r), flag, firstWith_cons.2 (.inl ⟨⟨flag, hshared⟩, rfl⟩), hshared, rfl⟩
      · rintro ⟨entry, flag', hfirst, hflag', rfl⟩
        -- the first field is shared, so no later one is reported
        rcases firstWith_cons.1 hfirst with ⟨-, rfl⟩ | ⟨hnot, -⟩
        · rw [MatchMode.sharedBy_iff, hflag] at hflag'
          cases hflag'
          rfl
        · exact absurd ⟨flag, hshared⟩ hnot
    · next hflag =>
      have hnot : ¬∃ flag, r.mode.SharedBy flag := by
        rintro ⟨flag, h⟩
        rw [MatchMode.sharedBy_iff, hflag] at h
        cases h
      rw [ih e]
      simp only [firstWith_cons, hnot, false_and, not_false_eq_true, true_and, false_or]

theorem fails_choose (label : String) (sub? : Option Relationship) (chosen : Bool) :
    Fails (CleanupScope.choose label sub? chosen)
      (FirstOf (scopeComplaints label sub? chosen)) := by
  cases sub? with
  | none =>
    have hchoose : CleanupScope.choose label none chosen =
        pure (if chosen then .relationshipsOnly else .unscoped) := by
      cases chosen <;> rfl
    rw [hchoose]
    -- all three complaints are about an owner, and there is none
    refine ((fails_pure.skip ?_).skip ?_).skip ?_
    · rintro e ⟨sub, hsub, -⟩
      cases hsub
    · rintro e ⟨sub, hsub, -⟩
      cases hsub
    · rintro e ⟨⟨⟨sub, hsub⟩, -⟩, -⟩
      cases hsub
  | some sub =>
    cases chosen with
    -- the owner is not even looked at
    | false => exact fails_error fun e => by simp
    | true =>
      refine Fails.skip ?_ fun e h => Bool.noConfusion h.1.2
      refine Fails.bind ((fails_checkOwnerOrigin label sub.target.matcher).congr ?_) fun _ _ => ?_
      · simp
      refine Fails.bind ((fails_checkOwnerMode label sub.target.matcher).congr ?_) fun _ _ => ?_
      · simp
      exact fails_pure

theorem fails_build (d : Draft) : Fails d.build (FirstOf d.complaints) := by
  have hextra : d.extraLabels.any String.isEmpty = true ↔ "" ∈ d.extraLabels := by
    simp
  unfold build complaints
  -- one check after the other, each for the complaint in front
  refine Fails.bind (NameKind.fails_check .nodeLabel d.label) fun _ _ => ?_
  refine Fails.ite hextra ?_
  refine Fails.bind (Fields.fails_checkKeys d.properties (.node d.label)) fun _ _ => ?_
  refine Fails.bind (Fields.fails_require d.properties (.node d.label) idKey) fun _ _ => ?_
  refine Fails.bind (Fields.fails_require d.properties (.node d.label) lastUpdatedKey) fun _ _ => ?_
  exact (fails_choose d.label d.subResource d.scopedCleanup).map _

theorem forall_not_rowFieldComplaint {label : String} {matcher : Fields} :
    (∀ e, ¬RowFieldComplaint label matcher e) ↔
      ∀ entry ∈ matcher, entry.2.isParameter = true := by
  have hfirst := forall_not_firstWith (P := fun entry => entry.2.isParameter = false) (l := matcher)
  simp only [Bool.not_eq_false] at hfirst
  rw [← hfirst]
  constructor
  · intro h entry hentry
    exact h _ ⟨entry, hentry, rfl⟩
  · rintro h e ⟨entry, hentry, -⟩
    exact h entry hentry

theorem forall_not_sharedFieldComplaint {label : String} {matcher : Fields} :
    (∀ e, ¬SharedFieldComplaint label matcher e) ↔
      ∀ entry ∈ matcher, entry.2.mode = .exact ∨ entry.2.mode = .ignoreCase := by
  have hfirst := forall_not_firstWith (P := fun entry => ∃ flag, entry.2.mode.SharedBy flag)
    (l := matcher)
  simp only [MatchMode.not_sharedBy_iff] at hfirst
  rw [← hfirst]
  constructor
  · intro h entry hentry
    obtain ⟨-, -, -, ⟨flag, hflag⟩, -⟩ := id hentry
    exact h _ ⟨entry, flag, hentry, hflag, rfl⟩
  · rintro h e ⟨entry, flag, hentry, -⟩
    exact h entry hentry

/-- Nothing can be said against an owner that the run fixes and no other owner
    meets. -/
theorem forall_not_scopeComplaint {label : String} {sub? : Option Relationship} {chosen : Bool} :
    (∀ c ∈ scopeComplaints label sub? chosen, ∀ e, ¬c e) ↔
      (∀ sub ∈ sub?, chosen = true) ∧
        ∀ sub ∈ sub?, ∀ entry ∈ sub.target.matcher,
          entry.2.isParameter = true ∧ (entry.2.mode = .exact ∨ entry.2.mode = .ignoreCase) := by
  cases sub? with
  | none => simp [scopeComplaints]
  | some sub =>
    simp only [scopeComplaints, List.forall_mem_cons, List.not_mem_nil, false_imp_iff,
      implies_true, and_true, Option.mem_def, Option.some.injEq, exists_eq_left', exists_eq',
      true_and, forall_eq', forall_not_complaint, forall_not_rowFieldComplaint,
      forall_not_sharedFieldComplaint, forall_and, Bool.not_eq_false]

/-- The valid drafts are those that nothing can be said against. -/
theorem valid_iff {d : Draft} : d.Valid ↔ ∀ c ∈ d.complaints, ∀ e, ¬c e := by
  unfold complaints
  simp only [List.forall_mem_cons, forall_not_complaint, Fields.forall_not_keyComplaint,
    forall_not_scopeComplaint, not_not]
  constructor
  · intro h
    exact ⟨h.label, fun hmem => h.extraLabels "" hmem rfl, ⟨h.keys, h.nodup⟩, h.id, h.record,
      h.cleanup, h.owner⟩
  · rintro ⟨hlabel, hextra, ⟨hkeys, hnodup⟩, hid, hrecord, hcleanup, howner⟩
    refine ⟨hlabel, ?_, hkeys, hnodup, hid, hrecord, hcleanup, howner⟩
    rintro l hl rfl
    exact hextra hl

theorem describes_of_build {d : Draft} {s : NodeSchema} (h : d.build = .ok s) : d.Describes s := by
  rw [eq_redraft h]
  exact ⟨rfl, rfl, rfl, rfl, rfl, rfl, rfl⟩

/-- The builder accepts the valid drafts and no others, returns them unchanged,
    and otherwise reports the first complaint. -/
theorem built_iff_valid (label : String) (properties : Fields) (steps : List Step) :
    ((∃ s, (steps.foldl add { label, properties }).build = .ok s) ↔
        (ofSteps label properties steps).Valid) ∧
      (∀ s, (steps.foldl add { label, properties }).build = .ok s ↔
        (ofSteps label properties steps).Valid ∧ (ofSteps label properties steps).Describes s) ∧
      ∀ e, (steps.foldl add { label, properties }).build = .error e ↔
        FirstOf (ofSteps label properties steps).complaints e := by
  rw [foldl_add]
  generalize ofSteps label properties steps = d
  have hok : (∃ s, d.build = .ok s) ↔ d.Valid := by
    rw [valid_iff]
    exact (fails_build d).exists_ok
  refine ⟨hok, fun s => ⟨fun h => ⟨hok.1 ⟨s, h⟩, describes_of_build h⟩, ?_⟩, fails_build d⟩
  rintro ⟨hvalid, hs⟩
  obtain ⟨t, ht⟩ := hok.2 hvalid
  rw [hs.unique (describes_of_build ht)]
  exact ht

/-- The later field is reported, since the first pass over the matcher looks
    for rows. -/
example :
    let sub : Relationship :=
      { label := "OWNS", direction := .inward, properties := [], source := none,
        target := ⟨"Account", [("name", (Reference.param "ACCOUNT").withMode .fuzzy),
          ("id", Reference.row "account")]⟩ }
    ([Step.subResource sub].foldl add
        { label := "Host", properties := [(idKey, Reference.row "id"),
          (lastUpdatedKey, Reference.param lastUpdatedKey)] }).build =
      .error (.rowScopedSubResourceMatcher "Host" "id") := by
  rfl

end Draft

end NodeSchema

end GraphSync
