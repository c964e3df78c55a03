import GraphSync.Schema.Matchlink
import Mathlib.Data.List.Nodup

/-! # Accepted schemas

    A schema is accepted when it comes out of the checks: the builders of
    relationships and nodes, and that of matchlinks on top.  What they have
    checked is read off here once, as lists without repeated keys and the
    record of the run. -/

namespace GraphSync

/-- What a chain of checks has returned has passed each of them. -/
theorem Except.of_bind_ok {ε α β : Type} {x : Except ε α} {f : α → Except ε β} {b : β}
    (h : x >>= f = .ok b) : ∃ a, x = .ok a ∧ f a = .ok b := by
  cases x with
  | error e => cases h
  | ok a => exact ⟨a, rfl, h⟩

/-! ## Keys -/

namespace Fields

/-- The keys of some fields, in order. -/
def keys (fields : Fields) : List String := fields.map (·.1)

theorem has_iff {fields : Fields} {key : String} : fields.has key = true ↔ key ∈ fields.keys := by
  unfold has get? keys
  rw [Option.isSome_map, List.find?_isSome, List.mem_map]
  simp

theorem checkKeysAfter_ok {owner : Owner} {seen : List String} {fields : Fields}
    (h : fields.checkKeysAfter owner seen = .ok ()) :
    fields.keys.Nodup ∧ ∀ key ∈ fields.keys, key ≠ "" ∧ key ∉ seen := by
  induction fields generalizing seen with
  | nil => simp [keys]
  | cons entry rest ih =>
    obtain ⟨key, r⟩ := entry
    rw [checkKeysAfter] at h
    split at h
    · cases h
    · next hempty =>
      split at h
      · cases h
      · next hseen =>
        obtain ⟨hnodup, hrest⟩ := ih h
        have hfresh : key ∉ keys rest := by
          intro hmem
          exact (hrest key hmem).2 List.mem_cons_self
        refine ⟨List.nodup_cons.2 ⟨hfresh, hnodup⟩, ?_⟩
        intro k hk
        rcases List.mem_cons.1 hk with rfl | hk
        · exact ⟨by simpa using hempty, hseen⟩
        · exact ⟨(hrest k hk).1, fun hmem => (hrest k hk).2 (List.mem_cons_of_mem _ hmem)⟩

theorem checkKeys_ok {owner : Owner} {fields : Fields} (h : fields.checkKeys owner = .ok ()) :
    fields.keys.Nodup ∧ "" ∉ fields.keys := by
  obtain ⟨hnodup, hkeys⟩ := checkKeysAfter_ok h
  exact ⟨hnodup, fun hmem => (hkeys "" hmem).1 rfl⟩

theorem require_ok {owner : Owner} {fields : Fields} {key : String}
    (h : fields.require owner key = .ok ()) : fields.has key = true := by
  unfold require at h
  split at h
  · next hhas => exact hhas
  · cases h

/-- Among fields without repeated keys, the one that is found is the only
    one. -/
theorem get?_eq_some_iff {fields : Fields} (hnodup : fields.keys.Nodup) {key : String}
    {r : Reference} : fields.get? key = some r ↔ (key, r) ∈ fields := by
  induction fields with
  | nil => simp [get?]
  | cons entry rest ih =>
    obtain ⟨k, r'⟩ := entry
    obtain ⟨hfresh, hrest⟩ := List.nodup_cons.1 hnodup
    by_cases hk : k = key
    · subst hk
      have hnot : (k, r) ∉ rest := fun hmem => hfresh (List.mem_map.2 ⟨(k, r), hmem, rfl⟩)
      simp [get?, hnot, eq_comm]
    · have hlater := ih hrest
      unfold get? at hlater ⊢
      have hne : ¬(key = k) := fun h => hk h.symm
      simp only [List.find?_cons, beq_eq_false_iff_ne.2 hk, hlater, List.mem_cons, Prod.mk.injEq,
        hne, false_and, false_or]

end Fields

/-! ## Accepted relationships, nodes and matchlinks -/

/-- A relationship schema that has passed all checks. -/
def Relationship.Built (rel : Relationship) : Prop :=
  ∃ d : Relationship.Draft, d.build = .ok rel

/-- Properties without repeated keys that record the run. -/
structure Fields.Recorded (fields : Fields) : Prop where
  nodup  : fields.keys.Nodup
  record : lastUpdatedKey ∈ fields.keys

theorem Relationship.Built.recorded {rel : Relationship} (h : rel.Built) :
    rel.properties.Recorded := by
  obtain ⟨d, hd⟩ := h
  obtain ⟨_, -, hd⟩ := Except.of_bind_ok hd
  obtain ⟨target, -, hd⟩ := Except.of_bind_ok hd
  obtain ⟨_, -, hd⟩ := Except.of_bind_ok hd
  obtain ⟨_, -, hd⟩ := Except.of_bind_ok hd
  obtain ⟨_, hkeys, hd⟩ := Except.of_bind_ok hd
  obtain ⟨_, hrequire, hd⟩ := Except.of_bind_ok hd
  cases hd
  exact ⟨(Fields.checkKeys_ok hkeys).1, Fields.has_iff.1 (Fields.require_ok hrequire)⟩

/-- A node schema that has passed all checks, with relationships that have. -/
structure NodeSchema.Built (s : NodeSchema) : Prop where
  draft : ∃ d : NodeSchema.Draft, d.build = .ok s
  relationships : ∀ rel ∈ s.relationships, rel.Built

/-- What the checks of a draft say about the schema that comes out of them. -/
structure NodeSchema.Checked (s : NodeSchema) : Prop where
  nodup  : s.properties.keys.Nodup
  id     : idKey ∈ s.properties.keys
  record : lastUpdatedKey ∈ s.properties.keys
  scope  : ∃ sub? chosen, CleanupScope.choose s.label sub? chosen = .ok s.scope

theorem NodeSchema.Draft.checked {d : NodeSchema.Draft} {s : NodeSchema} (h : d.build = .ok s) :
    s.Checked := by
  obtain ⟨_, -, h⟩ := Except.of_bind_ok h
  by_cases hextra : d.extraLabels.any String.isEmpty = true
  · simp only [hextra, if_true] at h
    cases h
  simp only [hextra] at h
  obtain ⟨_, hkeys, h⟩ := Except.of_bind_ok h
  obtain ⟨_, hid, h⟩ := Except.of_bind_ok h
  obtain ⟨_, hrecord, h⟩ := Except.of_bind_ok h
  obtain ⟨scope, hscope, h⟩ := Except.of_bind_ok h
  cases h
  exact ⟨(Fields.checkKeys_ok hkeys).1, Fields.has_iff.1 (Fields.require_ok hid),
    Fields.has_iff.1 (Fields.require_ok hrecord), d.subResource, d.scopedCleanup, hscope⟩

theorem NodeSchema.Draft.recorded {d : NodeSchema.Draft} {s : NodeSchema} (h : d.build = .ok s) :
    s.properties.Recorded :=
  ⟨(NodeSchema.Draft.checked h).nodup, (NodeSchema.Draft.checked h).record⟩

theorem NodeSchema.Built.checked {s : NodeSchema} (h : s.Built) : s.Checked := by
  obtain ⟨d, hd⟩ := h.draft
  exact NodeSchema.Draft.checked hd

/-- The nodes of an accepted schema have ids. -/
theorem NodeSchema.Built.exists_id {s : NodeSchema} (h : s.Built) :
    ∃ r, s.properties.get? idKey = some r := by
  obtain ⟨⟨key, r⟩, hmem, rfl⟩ := List.mem_map.1 h.checked.id
  exact ⟨r, (Fields.get?_eq_some_iff h.checked.nodup).2 hmem⟩

/-- The owner of an accepted schema is found by parameters only. -/
theorem NodeSchema.Built.owner_isParameter {s : NodeSchema} (h : s.Built) {sub : Relationship}
    (hscope : s.scope = .subResource sub) :
    ∀ entry ∈ sub.target.matcher, entry.2.isParameter = true := by
  obtain ⟨sub?, chosen, hchoose⟩ := h.checked.scope
  have horigin : ∃ u, checkOwnerOrigin s.label sub.target.matcher = .ok u := by
    rw [hscope] at hchoose
    unfold CleanupScope.choose at hchoose
    split at hchoose
    · obtain ⟨u, hu, hchoose⟩ := Except.of_bind_ok hchoose
      obtain ⟨_, -, hchoose⟩ := Except.of_bind_ok hchoose
      cases hchoose
      exact ⟨u, hu⟩
    · cases hchoose
    · cases hchoose
    · cases hchoose
  obtain ⟨u, hu⟩ := horigin
  unfold checkOwnerOrigin at hu
  split at hu
  · cases hu
  · next hnone =>
    intro entry hentry
    simpa using List.find?_eq_none.1 hnone entry hentry

/-- A matchlink that has passed all checks. -/
structure Matchlink.Built (m : Matchlink) : Prop where
  relationship : m.relationship.Built
  link : Matchlink.ofRelationship m.relationship = .ok m

theorem Relationship.requireSource_eq_ok_iff {rel : Relationship} {source : Endpoint} :
    rel.requireSource = .ok source ↔ rel.source = some source := by
  unfold requireSource
  cases rel.source <;> simp

/-- The checks of a matchlink keep the relationship, whose source they
    demand. -/
theorem Matchlink.eq_of_ofRelationship {rel : Relationship} {m : Matchlink}
    (h : Matchlink.ofRelationship rel = .ok m) :
    m.relationship = rel ∧ rel.source = some m.source := by
  obtain ⟨source, hsource, h⟩ := Except.of_bind_ok h
  obtain ⟨_, -, h⟩ := Except.of_bind_ok h
  obtain ⟨_, -, h⟩ := Except.of_bind_ok h
  obtain ⟨_, -, h⟩ := Except.of_bind_ok h
  obtain ⟨_, -, h⟩ := Except.of_bind_ok h
  obtain ⟨_, -, h⟩ := Except.of_bind_ok h
  cases h
  exact ⟨rfl, Relationship.requireSource_eq_ok_iff.1 hsource⟩

/-- A schema that has passed all checks. -/
def Schema.Built : Schema → Prop
  | .node s => s.Built
  | .matchlink m => m.Built

/-! ## Drafts of accepted schemas

    Nothing that was drafted is lost in an accepted schema, so the draft can be
    read off it. -/

/-- A relationship as a draft of itself. -/
def Relationship.redraft (rel : Relationship) : Relationship.Draft where
  label := rel.label
  direction := rel.direction
  target := some rel.target
  properties := rel.properties
  source := rel.source

theorem Relationship.redraft_injective : Function.Injective Relationship.redraft := by
  rintro ⟨⟩ ⟨⟩ h
  cases h
  rfl

theorem Relationship.Draft.requireTarget_eq_ok_iff {d : Relationship.Draft} {target : Endpoint} :
    d.requireTarget = .ok target ↔ d.target = some target := by
  unfold requireTarget
  cases d.target <;> simp

/-- A draft that is accepted differs from the relationship only in that its
    target could have been missing. -/
theorem Relationship.Draft.eq_redraft {d : Relationship.Draft} {rel : Relationship}
    (h : d.build = .ok rel) : d = rel.redraft := by
  obtain ⟨_, -, h⟩ := Except.of_bind_ok h
  obtain ⟨target, htarget, h⟩ := Except.of_bind_ok h
  obtain ⟨_, -, h⟩ := Except.of_bind_ok h
  obtain ⟨_, -, h⟩ := Except.of_bind_ok h
  obtain ⟨_, -, h⟩ := Except.of_bind_ok h
  obtain ⟨_, -, h⟩ := Except.of_bind_ok h
  cases h
  have hsome := Relationship.Draft.requireTarget_eq_ok_iff.1 htarget
  show d = { label := d.label, direction := d.direction, target := some target,
             properties := d.properties, source := d.source }
  rw [← hsome]

theorem Relationship.Built.build_redraft {rel : Relationship} (h : rel.Built) :
    rel.redraft.build = .ok rel := by
  obtain ⟨d, hd⟩ := h
  rw [← Relationship.Draft.eq_redraft hd]
  exact hd

/-- A node schema as a draft of itself. -/
def NodeSchema.redraft (s : NodeSchema) : NodeSchema.Draft where
  label := s.label
  properties := s.properties
  extraLabels := s.extraLabels
  subResource := s.subResource?
  others := s.others
  scopedCleanup := s.scopedCleanup

theorem CleanupScope.choose_ok {label : String} {sub : Option Relationship} {chosen : Bool}
    {scope : CleanupScope} (h : choose label sub chosen = .ok scope) :
    (∃ rel, sub = some rel ∧ chosen = true ∧ scope = .subResource rel) ∨
    (sub = none ∧ chosen = true ∧ scope = .relationshipsOnly) ∨
    (sub = none ∧ chosen = false ∧ scope = .unscoped) := by
  unfold choose at h
  split at h
  · next rel =>
    obtain ⟨_, -, h⟩ := Except.of_bind_ok h
    obtain ⟨_, -, h⟩ := Except.of_bind_ok h
    cases h
    exact .inl ⟨rel, rfl, rfl, rfl⟩
  · cases h
  · cases h
    exact .inr (.inl ⟨rfl, rfl, rfl⟩)
  · cases h
    exact .inr (.inr ⟨rfl, rfl, rfl⟩)

/-- The scope that is chosen tells what it was chosen from, so an accepted
    draft can be recovered from its schema. -/
theorem NodeSchema.Draft.eq_redraft {d : NodeSchema.Draft} {s : NodeSchema}
    (h : d.build = .ok s) : d = s.redraft := by
  obtain ⟨_, -, h⟩ := Except.of_bind_ok h
  by_cases hextra : d.extraLabels.any String.isEmpty = true
  · simp only [hextra, if_true] at h
    cases h
  simp only [hextra] at h
  obtain ⟨_, -, h⟩ := Except.of_bind_ok h
  obtain ⟨_, -, h⟩ := Except.of_bind_ok h
  obtain ⟨_, -, h⟩ := Except.of_bind_ok h
  obtain ⟨scope, hscope, h⟩ := Except.of_bind_ok h
  cases h
  obtain ⟨label, properties, extraLabels, subResource, others, scopedCleanup⟩ := d
  obtain ⟨rel, hsub, hchosen, hchoice⟩ | ⟨hsub, hchosen, hchoice⟩ | ⟨hsub, hchosen, hchoice⟩ :=
    CleanupScope.choose_ok hscope
  all_goals
    cases hsub
    cases hchosen
    cases hchoice
    rfl

theorem NodeSchema.Built.build_redraft {s : NodeSchema} (h : s.Built) :
    s.redraft.build = .ok s := by
  obtain ⟨d, hd⟩ := h.draft
  rw [← NodeSchema.Draft.eq_redraft hd]
  exact hd

end GraphSync
