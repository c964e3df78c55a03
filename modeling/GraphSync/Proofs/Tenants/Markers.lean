import GraphSync.Proofs.Cleanup.Reach
import GraphSync.Proofs.Ingestion.Passes
import GraphSync.Proofs.Schema.Matchlinks

/-! # Scope markers

    Tenants that share a matchlink are told apart by two scope markers.  The
    ingestion assigns them to links and the cleanup compares them, in queries
    that are compiled apart.

    * `Matchlink.Marks`: what the two queries have to agree on for one marker.
    * `Matchlink.KeepsScopesApart`: what follows for the links of a load, by
      way of `WritesOwn`.

    `matchlinks_are_safely_scoped` has both for every matchlink that is
    accepted, and says which ones are.  Scopes are apart when the database
    takes their markers for different, which it does of different texts
    (`Parameters.tellsFrom_of_texts`), but not of the same number in two kinds
    (`equal_ids_share_their_links`). -/

namespace GraphSync

open Cypher Plan Relationship

/-! ## Where a marker is written and compared -/

/-- What a condition requires a property of a key to be equal to. -/
def Cypher.Condition.comparand? (key : String) : Condition → Option Expr
  | .eq (.property _ k) e => if k = key then some e else none
  | _ => none

/-- What the conditions of a query require properties of a key to be equal
    to. -/
def Cypher.Query.comparands (q : Query) (key : String) : List Expr :=
  q.flatMap fun c => c.conditions.filterMap (Condition.comparand? key)

/-- Among fields without repeated keys, one assigns to a key. -/
theorem Fields.filter_writes {fields : Fields} (hnodup : fields.keys.Nodup) {key : String}
    {r : Reference} (hr : (key, r) ∈ fields) (var : String) :
    (fields.writes var).filter (fun w => w.key = key) =
      [{ var, key, value := r.expr, part := .set }] := by
  induction fields with
  | nil => cases hr
  | cons entry rest ih =>
    obtain ⟨hfresh, hrest⟩ := List.nodup_cons.1 hnodup
    unfold writes at ih ⊢
    rw [List.map_cons]
    rcases List.mem_cons.1 hr with rfl | hr
    · -- the later keys differ from the first
      rw [List.filter_cons_of_pos (by simp), List.cons_inj_right, List.filter_eq_nil_iff]
      intro w hw
      obtain ⟨other, hother, rfl⟩ := List.mem_map.1 hw
      have hne : other.1 ≠ key := fun heq => hfresh (List.mem_map.2 ⟨other, hother, heq⟩)
      simp [hne]
    · have hne : entry.1 ≠ key := fun heq => hfresh (List.mem_map.2 ⟨_, hr, heq.symm⟩)
      rw [List.filter_cons_of_neg (by simp [hne])]
      exact ih hrest hr

namespace Matchlink

variable {link : Matchlink} {marker : String}

/-- A pass of the ingestion assigns to a marker once, from the parameter that
    the cleanup compares the marker with, and with no other. -/
structure Marks (link : Matchlink) (marker : String) : Prop where
  assigned : (Schema.matchlink link).passes.map (fun ws => ws.filter fun w => w.key = marker) =
    [[{ var := "r", key := marker, value := .param marker, part := .set }]]
  compared : link.cleanup.comparands marker = [.param marker]

theorem comparands_cleanup (hmarker : marker ∈ [scopeLabelKey, scopeIdKey]) :
    link.cleanup.comparands marker = [.param marker] := by
  rcases List.mem_pair.1 hmarker with rfl | rfl <;> rfl

theorem Built.marks (h : link.Built) (hmarker : marker ∈ [scopeLabelKey, scopeIdKey]) :
    link.Marks marker := by
  refine ⟨?_, comparands_cleanup hmarker⟩
  have hseen : firstSeenKey ≠ marker := by
    rcases List.mem_pair.1 hmarker with rfl | rfl <;> decide
  obtain ⟨r, hr, hparam, hname⟩ := h.exists_marker hmarker
  -- the keys differ, so the one field is all that there is
  have honly := Fields.filter_writes h.relationship.recorded.nodup hr "r"
  have hexpr : r.expr = .param marker := by
    rw [Reference.expr, of_decide_eq_true hparam, hname]
  unfold Schema.passes Schema.ingestion
  rw [passes_ingestion, List.map_singleton, Relationship.writes,
    List.filter_cons_of_neg (by simp [firstSeenWrite, hseen]), honly, hexpr]

end Matchlink

/-! ## Cleanups for other markers -/

/-- The database tells the markers of the parameters from others. -/
def Parameters.TellsFrom (p : Parameters) (scopeLabel : String) (scopeId : Json) : Prop :=
  (p.value scopeLabelKey).same (.string scopeLabel) ≠ some true ∨
    (p.value scopeIdKey).same scopeId ≠ some true

/-- Markers that are texts are told from all others. -/
theorem Parameters.tellsFrom_of_texts {p : Parameters} {label id scopeLabel : String}
    {scopeId : Json} (hlabel : p.value scopeLabelKey = .string label)
    (hid : p.value scopeIdKey = .string id)
    (hne : (scopeLabel, scopeId) ≠ (label, .string id)) : p.TellsFrom scopeLabel scopeId := by
  unfold TellsFrom
  rw [hlabel, hid, ← not_and_or]
  rintro ⟨hsame, hsame'⟩
  cases scopeId <;> simp [Json.same] at hsame hsame'
  exact hne (by rw [hsame, hsame'])

namespace Matchlink

variable {link : Matchlink}

/-- No link that a load has written is a target of the cleanup for other
    markers, in any graph in which it has still the markers that the load has
    left it with. -/
def KeepsScopesApart (link : Matchlink) : Prop :=
  ∀ (p : Parameters) (rows : List Row) (o : SyncOptions) (load : Load) (tasks : List Task),
    (Schema.matchlink link).load rows p o = .ok load →
    (Schema.matchlink link).Carries p load tasks →
    ∀ (ε : Type) lower g s' (replies : List (Reply ε)),
      Session lower tasks { graph := g, written := [] } replies s' →
      ∀ l, .link l ∈ s'.written →
        ∀ g' : Graph, (∀ marker ∈ [scopeLabelKey, scopeIdKey],
            g'.prop (.link l) marker = s'.graph.prop (.link l) marker) →
          ∀ scopeLabel scopeId tag (o' : SyncOptions), p.TellsFrom scopeLabel scopeId →
            .link l ∉ link.cleanup.targets
              ((CleanupJob.ofMatchlink link scopeLabel scopeId tag).context o' lower) g'

/-- What a cleanup deletes has the markers of its job. -/
theorem markers_of_mem_targets {scopeLabel : String} {scopeId : Json} {tag : Int64}
    {o : SyncOptions} {lower : String → String} {g : Graph} {l : Nat}
    (h : .link l ∈ link.cleanup.targets
      ((CleanupJob.ofMatchlink link scopeLabel scopeId tag).context o lower) g) :
    (g.prop (.link l) scopeLabelKey).same (.string scopeLabel) = some true ∧
      (g.prop (.link l) scopeIdKey).same scopeId = some true := by
  obtain ⟨l', hl', -, -, hmarkers⟩ := mem_targets.1 h
  cases hl'
  -- neither marker is the size of the window, which is sent along
  let job := CleanupJob.ofMatchlink link scopeLabel scopeId tag
  have hid : (job.context o lower).params.value scopeIdKey = scopeId := by
    rw [job.value_context o lower (by decide)]
    exact Parameters.value_insert_self _ _ _
  have hlabel : (job.context o lower).params.value scopeLabelKey = .string scopeLabel := by
    rw [job.value_context o lower (by decide)]
    exact (Parameters.value_insert_of_ne _ (by decide) _).trans
      (Parameters.value_insert_self _ _ _)
  exact ⟨hlabel ▸ hmarkers scopeLabelKey (by decide), hid ▸ hmarkers scopeIdKey (by decide)⟩

theorem Built.keepsScopesApart (h : link.Built) : link.KeepsScopesApart := by
  intro p rows o load tasks _ hcarries ε lower g s' replies hsession l hl g' hsame scopeLabel
    scopeId tag o' hother hmem
  have hown : link.WritesOwn p s' := load_writesOwn h hcarries hsession rfl
  obtain ⟨l', -, hl', hbears⟩ := hown _ hl
  cases hl'
  -- the link still has the markers of the load
  have hmarker {marker : String} (hmarker : marker ∈ [scopeLabelKey, scopeIdKey]) :
      g'.prop (.link l) marker = p.value marker :=
    (hsame marker hmarker).trans (hbears.markers marker hmarker)
  obtain ⟨hlabel, hid⟩ := markers_of_mem_targets hmem
  rw [hmarker (by decide)] at hlabel hid
  exact hother.elim (· hlabel) (· hid)

end Matchlink

/-- The matchlinks that exist are safely scoped.  Whatever is added to a draft,
    it is accepted as a matchlink if it is a valid one, and then nothing that
    it says is lost; otherwise the first complaint is reported.  In an accepted
    matchlink ingestion and cleanup agree on both markers, and the links of one
    scope are out of the reach of the cleanup of another, if the database tells
    the two apart. -/
theorem matchlinks_are_safely_scoped (label : String) (direction : Direction)
    (steps : List Draft.Step) :
    ((∃ m, (steps.foldl Draft.add { label, direction }).build >>= Matchlink.ofRelationship = .ok m)
        ↔ (Draft.ofSteps label direction steps).ValidLink) ∧
      (∀ e, (steps.foldl Draft.add { label, direction }).build >>= Matchlink.ofRelationship =
          .error e ↔ FirstOf (Draft.ofSteps label direction steps).linkComplaints e) ∧
      ∀ m, (steps.foldl Draft.add { label, direction }).build >>= Matchlink.ofRelationship = .ok m →
        (Draft.ofSteps label direction steps).DescribesLink m ∧
          (∀ marker ∈ [scopeLabelKey, scopeIdKey], m.Marks marker) ∧ m.KeepsScopesApart := by
  rw [Draft.foldl_add]
  obtain ⟨haccepted, hresult, hrefused⟩ :=
    Draft.link_outcomes (Draft.ofSteps label direction steps)
  refine ⟨haccepted, hrefused, fun m hm => ?_⟩
  have hbuilt : m.Built := Matchlink.built_of_link hm
  exact ⟨((hresult m).1 hm).2, fun marker hmarker => hbuilt.marks hmarker, hbuilt.keepsScopesApart⟩

namespace Sample

/-- What is added to the draft of `access`, with a target that is replaced. -/
def accessSteps : List Draft.Step :=
  [.target { label := "Service", matcher := [] },
   .source access.source,
   .properties access.relationship.properties,
   .target access.relationship.target]

end Sample

/-- The link that the first team has drawn is no target of the cleanup of the
    second. -/
theorem granted_link_stays :
    (Draft.ofSteps "CAN_ACCESS" .outward Sample.accessSteps).ValidLink ∧
      .link 0 ∈ Sample.granted.written ∧
      (Sample.teamParameters false).TellsFrom "Team" (.string "b") ∧
      .link 0 ∉ Sample.access.cleanup.targets
        ((CleanupJob.ofMatchlink Sample.access "Team" (.string "b") 2).context {} id)
        Sample.granted.graph := by
  obtain ⟨haccepted, -, hscoped⟩ :=
    matchlinks_are_safely_scoped "CAN_ACCESS" .outward Sample.accessSteps
  obtain ⟨-, -, hapart⟩ := hscoped Sample.access rfl
  obtain ⟨load, hload, hcarries⟩ := Sample.access_load (.string "a") rfl (by decide)
  obtain ⟨out, hexec⟩ := Sample.granted_exec
  have hwritten : .link 0 ∈ Sample.granted.written := List.mem_cons_self
  have htold : (Sample.teamParameters false).TellsFrom "Team" (.string "b") :=
    Parameters.tellsFrom_of_texts (Eq.refl (Json.string "Team")) (Eq.refl (Json.string "a"))
      (by simp)
  exact ⟨haccepted.1 ⟨Sample.access, rfl⟩, hwritten, htold,
    hapart _ _ _ load _ hload hcarries String id _ _ _ (Sample.access_session hexec) 0 hwritten _
      (fun _ _ => rfl) "Team" (.string "b") 2 {} htold⟩

namespace Sample

/-- The number 1 as a double. -/
def oneAsDouble : Json := .double { negative := false, magnitude := 1023 * Double.binade }

end Sample

/-- Markers may differ and be equal to the database all the same.  The link
    that a team has drawn under the id 1 is a target of the cleanup for the id
    1.0. -/
theorem equal_ids_share_their_links :
    (Sample.accessSteps.foldl Draft.add { label := "CAN_ACCESS", direction := .outward }).build >>=
        Matchlink.ofRelationship = .ok Sample.access ∧
      Json.ofInt64 1 ≠ Sample.oneAsDouble ∧
      (∃ load, (Schema.matchlink Sample.access).load [.ok Sample.accessRow]
          (Sample.scopedParameters 1 (.ofInt64 1)) {} = .ok load ∧
        (Schema.matchlink Sample.access).Carries (Sample.scopedParameters 1 (.ofInt64 1)) load
          (Sample.accessTasks (.ofInt64 1))) ∧
      Session (ε := String) id (Sample.accessTasks (.ofInt64 1)) Sample.idle.store
        [.ok 0, .ok 0, .ok 0, .ok 0] (Sample.grantedTo (.ofInt64 1)) ∧
      .link 0 ∈ (Sample.grantedTo (.ofInt64 1)).written ∧
      .link 0 ∈ Sample.access.cleanup.targets
        ((CleanupJob.ofMatchlink Sample.access "Team" Sample.oneAsDouble 2).context {} id)
        (Sample.grantedTo (.ofInt64 1)).graph := by
  obtain ⟨out, hexec⟩ := Sample.grantedTo_exec (.ofInt64 1)
    ⟨_, rfl, _, rfl, _, rfl, rfl⟩ rfl
  refine ⟨rfl, ?_, Sample.access_load (.ofInt64 1) rfl (by decide), Sample.access_session hexec,
    List.mem_cons_self, by decide +kernel⟩
  intro h
  cases h

end GraphSync
