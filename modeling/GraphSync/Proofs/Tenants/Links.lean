import GraphSync.Proofs.Cleanup.Targets
import GraphSync.Proofs.Schema.Matchlinks
import GraphSync.Proofs.Tenants.Run

/-! # Links of several tenants

    Tenants that load one matchlink share its links: the merge of a link looks
    at its ends and its type only, while a cleanup also looks at the scope
    markers, which the last load of the link has set.

    * `links_stay_or_are_contested`: a tenant keeps a link, with its markers,
      between all nodes that its latest load has joined, unless another tenant
      has joined the two since.
    * `contested_link_is_lost`: then the link goes over to the other tenant. -/

namespace GraphSync

open Cypher Plan

variable {ι : Type}

namespace Matchlink

/-! ## The fields of a matchlink -/

/-- The markers of a matchlink are fed by the parameters of their names. -/
theorem Built.gives_marker {link : Matchlink} (h : link.Built) {marker : String}
    (hmarker : marker ∈ [scopeLabelKey, scopeIdKey]) (p : Parameters) :
    link.relationship.properties.Gives p marker (p.value marker) := by
  have hnodup := h.relationship.recorded.nodup
  obtain ⟨r, hr, hparam, rfl⟩ := h.exists_marker hmarker
  have horigin : r.origin = .parameter := by simpa [Reference.isParameter] using hparam
  refine Fields.gives_of_get hnodup ((Fields.get?_eq_some_iff hnodup).2 hr) fun field => ?_
  unfold Reference.value
  rw [horigin]

end Matchlink

namespace Tenancy

variable {T : Tenancy ι} {link : Matchlink} {i j : ι} {tag run : Int64} {p : Parameters}
  {batch : List Json} {g g' : Graph} {n m : Nat}

/-! ## Links of a tenant -/

variable (T link) in
/-- A row of a batch finds two nodes. -/
def Reports (g : Graph) (p : Parameters) (batch : List Json) (n m : Nat) : Prop :=
  ∃ row ∈ batch, link.Finds (T.sending p batch) g row n m

variable (T) in
/-- The scope markers of a tenant. -/
def Bears (i : ι) (props : String → Json) : Prop :=
  ∀ marker ∈ [scopeLabelKey, scopeIdKey], props marker = (T.scope i).value marker

variable (T link) in
/-- A link that a tenant has drawn between two nodes, and no one since. -/
structure Owned (i : ι) (tag : Int64) (n m : Nat) (x : LinkData) : Prop where
  joins  : x.Joins link.relationship.label link.relationship.direction n m
  bears  : T.Bears i x.props
  record : x.props lastUpdatedKey = .ofInt64 tag

variable (T link) in
/-- A tenant has a link between two nodes. -/
def HasLink (i : ι) (tag : Int64) (n m : Nat) (g : Graph) : Prop :=
  ∃ l ∈ g.links, T.Owned link i tag n m (g.link l)

variable (T) in
/-- The database tells the markers of two tenants apart. -/
def MarkersDiffer : Prop :=
  ∀ i j, i ≠ j → ∃ marker ∈ [scopeLabelKey, scopeIdKey],
    ((T.scope i).value marker).same ((T.scope j).value marker) ≠ some true

/-! ## What a statement does to links -/

variable (hT : T.schema = .matchlink link)
include hT

theorem Gives.marker {marker : String} (hmarker : marker ∈ [scopeLabelKey, scopeIdKey])
    (h : T.Gives i p) : p.value marker = (T.scope i).value marker := by
  apply h marker
  rw [hT]
  exact hmarker

/-- A batch of a tenant leaves nodes as they are, and all links but those that
    it draws between what its rows find. -/
theorem Ingests.draws (hlink : link.Built) (hruns : T.schema.RecordsRun)
    (h : T.Ingests i tag p batch g g') :
    g.Extends [] (fun _ _ => False)
        (fun _ x => ∃ n m, T.Reports link g p batch n m ∧ T.Owned link i tag n m x) g' ∧
      ∀ n m, T.Reports link g p batch n m → T.HasLink link i tag n m g' ∧
        ∀ l, g'.Joins l link.relationship.label link.relationship.direction n m →
          T.Owned link i tag n m (g'.link l) := by
  obtain ⟨now, s, s', rows, rfl, rfl, hexec⟩ := h.exec
  rw [hT] at hexec
  have hbatch : ({ T.sending p batch with now } : Context).params.value rowsParam =
      .array batch := T.rows_sending p batch
  have howned {n m : Nat} {x : LinkData}
      (hx : Drawn (T.sending p batch).params link.relationship n m x) :
      T.Owned link i tag n m x := by
    obtain ⟨hjoins, hfeeds⟩ := hx
    refine ⟨hjoins, ?_, ?_⟩
    · intro marker hmarker
      have hne : marker ≠ rowsParam := by
        rcases List.mem_pair.1 hmarker with rfl | rfl <;> decide
      rw [hfeeds marker _ (hlink.gives_marker hmarker _), ← h.gives.marker hT hmarker]
      exact T.value_sending p batch hne
    · refine hfeeds _ _ (hlink.relationship.recorded.gives fun r hr => ?_)
      exact hruns.value (by rw [hT]; exact hr)
        ((T.value_sending p batch (by decide)).trans h.marks)
  obtain ⟨hextends, hdrawn⟩ :=
    Matchlink.ingestion_draws hlink.relationship.recorded.nodup hbatch hexec
  constructor
  · apply hextends.mono (List.Subset.refl _) (fun _ _ => id)
    rintro l x ⟨n, m, ⟨row, hrow, hfinds⟩, hx⟩
    exact ⟨n, m, ⟨row, hrow, (Matchlink.finds_at now).1 hfinds⟩, howned hx⟩
  · rintro n m ⟨row, hrow, hfinds⟩
    obtain ⟨⟨l, hjoins⟩, hall⟩ := hdrawn row hrow n m ((Matchlink.finds_at now).2 hfinds)
    exact ⟨⟨l, hjoins.1, howned (hall l hjoins)⟩, fun l hjoins => howned (hall l hjoins)⟩

/-- A batch leaves a tenant its link, unless it is a batch of another tenant
    that reports the two nodes. -/
theorem Ingests.keeps_link (hlink : link.Built) (hruns : T.schema.RecordsRun)
    (h : T.Ingests j run p batch g g') (hown : j = i → run = tag)
    (hother : j ≠ i → ¬ T.Reports link g p batch n m) (hg : T.HasLink link i tag n m g) :
    T.HasLink link i tag n m g' := by
  obtain ⟨l, hl, howned⟩ := hg
  obtain ⟨hextends, -⟩ := h.draws hT hlink hruns
  refine ⟨l, hextends.links hl, ?_⟩
  rcases hextends.link l (hextends.links hl) with ⟨n', m', hreports, hdrawn⟩ | ⟨-, hsame⟩
  · -- the batch has drawn the link anew, so it reports its ends
    obtain ⟨-, rfl, rfl⟩ := (hextends.joins l hl howned.joins).unique hdrawn.joins
    by_cases hj : j = i
    · subst hj
      exact hown rfl ▸ hdrawn
    · exact absurd hreports (hother hj)
  · rw [hsame]
    exact howned

/-- A statement of a cleanup leaves nodes as they are, and a tenant its link,
    unless the tenant itself is in another run. -/
theorem Sweeps.keeps_link (hdiffer : T.MarkersDiffer) (h : T.Sweeps j run g g')
    (hown : j = i → run = tag) :
    g.SameNodes g' ∧ (T.HasLink link i tag n m g → T.HasLink link i tag n m g') := by
  obtain ⟨job, o, -, hgives, hcompares, w, hw, dead, hdead, rfl⟩ := h.removes
  have hmay {e : Element} (he : e ∈ dead) : link.MayRemove (job.context o T.lower) g e := by
    rw [hT] at hw
    exact Schema.mayRemove_of_mem_targets hw (hdead he)
  have hnodes (n : Nat) : .node n ∉ dead := fun hn => hmay hn
  refine ⟨Graph.sameNodes_without hnodes, ?_⟩
  rintro ⟨l, hl, howned⟩
  refine ⟨l, Graph.mem_links_without.2 ⟨hl, ?_, hnodes _, hnodes _⟩, howned⟩
  intro hl
  obtain ⟨hstale, -, hmarkers⟩ := hmay hl
  by_cases hj : j = i
  · -- in the run of the tenant the link is not stale
    subst hj
    have hrecord : g.prop (.link l) lastUpdatedKey = .ofInt64 tag := howned.record
    unfold Graph.Stale at hstale
    rw [job.value_context o T.lower (by decide), hcompares, hrecord, hown rfl,
      Json.same_ofInt64] at hstale
    cases hstale
  · -- the markers of another tenant are not those of the link
    obtain ⟨marker, hmarker, hne⟩ := hdiffer i j (Ne.symm hj)
    have hlimit : marker ≠ limitParam := by
      rcases List.mem_pair.1 hmarker with rfl | rfl <;> decide
    have hsame := hmarkers marker hmarker
    have hbears : g.prop (.link l) marker = (T.scope i).value marker := howned.bears marker hmarker
    rw [job.value_context o T.lower hlimit, hgives.marker hT hmarker, hbears] at hsame
    exact hne hsame

/-! ## Runs -/

variable [DecidableEq ι]

/-- Every row of the latest load of a tenant was in some batch.  Two nodes that
    the row has found are joined by a link with the markers of the tenant at
    the end, or else another tenant has sent a batch since with a row that
    finds the two. -/
theorem links_stay_or_are_contested (hlink : link.Built) (hruns : T.schema.RecordsRun)
    (hdiffer : T.MarkersDiffer) (L : T.LatestLoad i) {row : Json} (hrow : .ok row ∈ L.rows) :
    ∃ batch es fs, row ∈ batch ∧
      L.during = es ++ .sent i (.batch T.schema.ingestion L.params batch) :: fs ∧
      ∀ n m, link.Finds (T.sending L.params batch) L.found.store.graph row n m →
        (∃ l, L.last.store.graph.Joins l link.relationship.label link.relationship.direction n m ∧
          T.Bears i (L.last.store.graph.prop (.link l))) ∨
        ∃ j ≠ i, ∃ p batch', .sent j (.batch T.schema.ingestion p batch') ∈ fs ++ L.since ∧
          T.Reports link L.found.store.graph p batch' n m := by
  obtain ⟨batch, hmem, hsent⟩ := L.sent_of_row hrow
  obtain ⟨es, fs, hsplit⟩ := List.mem_iff_append.1 hsent
  refine ⟨batch, es, fs, hmem, hsplit, ?_⟩
  intro n m hfinds
  by_contra hnot
  obtain ⟨hlost, hcontested⟩ := not_or.1 hnot
  -- nodes stay, and with them what the rows find
  have hnodes (events : List (Event ι)) :
      T.Keeps events L.InRun L.found.store.graph.SameNodes := by
    constructor
    · intro j run p batch' g g' _ _ hbatch hg
      exact hg.trans (hbatch.draws hT hlink hruns).1.sameNodes
    · intro j run g g' hrun hsweep hg
      exact hg.trans (hsweep.keeps_link (n := n) (m := m) hT hdiffer hrun).1
  have hlinks {events : List (Event ι)} (hsub : events ⊆ fs ++ L.since) :
      T.Keeps events L.InRun fun g =>
        L.found.store.graph.SameNodes g ∧ T.HasLink link i L.tag n m g := by
    constructor
    · intro j run p batch' g g' hsent hrun hbatch hg
      refine ⟨(hnodes events).batch hsent hrun hbatch hg.1,
        hbatch.keeps_link hT hlink hruns hrun ?_ hg.2⟩
      rintro hj ⟨row', hrow', hfinds'⟩
      exact hcontested ⟨j, hj, p, batch', hsub hsent, row', hrow',
        (Matchlink.finds_congr hg.1).1 hfinds'⟩
    · intro j run g g' hrun hsweep hg
      exact ⟨(hnodes events).sweep hrun hsweep hg.1, (hsweep.keeps_link hT hdiffer hrun).2 hg.2⟩
  have hloaded := L.at_loaded hsplit (hnodes _) (hlinks (List.subset_append_left _ _))
    (fun g g' hbatch hg => ((hbatch.draws hT hlink hruns).2 n m
      ⟨row, hmem, (Matchlink.finds_congr hg).2 hfinds⟩).1) (Graph.SameNodes.refl _)
  obtain ⟨-, l, hl, howned⟩ := L.at_last (hlinks (List.subset_append_right _ _)) hloaded
  exact hlost ⟨l, ⟨hl, howned.joins⟩, howned.bears⟩

variable (T link) in
/-- Every tenant has its links at the end of every run: between all nodes that
    a row of its latest load has found, one with its markers. -/
def KeepsLinks : Prop :=
  ∀ i (L : T.LatestLoad i) batch,
    .sent i (.batch T.schema.ingestion L.params batch) ∈ L.during →
    ∀ row ∈ batch, ∀ n m, link.Finds (T.sending L.params batch) L.found.store.graph row n m →
      ∃ l, L.last.store.graph.Joins l link.relationship.label link.relationship.direction n m ∧
        T.Bears i (L.last.store.graph.prop (.link l))

end Tenancy

/-! ## A link that two tenants report -/

namespace Sample

/-- Who may use what, as teams report it. -/
def access : Matchlink where
  relationship :=
    { label := "CAN_ACCESS", direction := .outward
      target := { label := "Repo", matcher := [(idKey, .row "repo")] }
      properties := [(lastUpdatedKey, .param lastUpdatedKey),
        (scopeLabelKey, .param scopeLabelKey), (scopeIdKey, .param scopeIdKey)]
      source := some { label := "Person", matcher := [(idKey, .row "person")] } }
  source := { label := "Person", matcher := [(idKey, .row "person")] }

theorem access_built : access.Built := by
  refine ⟨⟨{ label := "CAN_ACCESS", direction := .outward
             target := some access.relationship.target
             properties := access.relationship.properties
             source := some access.source }, ?_⟩, ?_⟩
  · rfl
  · rfl

/-- A person and a repository. -/
def people : Graph where
  nodes := [0, 1]
  links := []
  labels n := if n < 1 then {"Person"} else {"Repo"}
  type _ := ""
  source _ := 0
  target _ := 0
  prop e key :=
    match e, key with
    | .node 0, "id" => .string "p"
    | .node 1, "id" => .string "r"
    | _, _ => .null
  nodes_nodup := by decide
  links_nodup := List.nodup_nil
  ends_mem := by decide

/-- The row that both teams report. -/
def accessRow : Json := .object [("person", .string "p"), ("repo", .string "r")]

/-- The run in which a team loads the row. -/
def teamTag (i : Bool) : Int64 := if i then 2 else 1

/-- The parameters of a run for a team with some id. -/
def scopedParameters (tag : Int64) (scopeId : Json) : Parameters :=
  Parameters.ofRun tag [(scopeLabelKey, .string "Team"), (scopeIdKey, scopeId)]

/-- The parameters of a team. -/
def teamParameters (i : Bool) : Parameters :=
  scopedParameters (teamTag i) (.string (if i then "b" else "a"))

/-- Two teams. -/
def teams : Tenancy Bool where
  schema := .matchlink access
  scope := teamParameters
  lower := id

theorem teams_recordsRun : teams.schema.RecordsRun := by
  unfold Schema.RecordsRun
  decide

theorem teams_markersDiffer : teams.MarkersDiffer := by
  intro i j hij
  refine ⟨scopeIdKey, by decide, ?_⟩
  cases i <;> cases j <;> first | exact absurd rfl hij | decide

/-- Nothing has been loaded yet. -/
def idle : Shared Bool where
  store := { graph := people, written := [] }
  pending _ := []
  tag _ := none

/-- The link, as a team with some id has drawn it in run 1. -/
def grantedTo (scopeId : Json) : Store where
  graph :=
    let drawn := people.addLink 0 "CAN_ACCESS" 0 1 (by decide) (by decide) (by decide)
    (((drawn.setProp (.link 0) firstSeenKey (.ofInt64 0)).setProp (.link 0) lastUpdatedKey
      (.ofInt64 1)).setProp (.link 0) scopeLabelKey (.string "Team")).setProp (.link 0) scopeIdKey
        scopeId
  written := [.link 0, .link 0, .link 0, .link 0, .link 0]

/-- The link, as the first team has drawn it. -/
def granted : Store := grantedTo (.string "a")

/-- The link before the team has assigned to it: as it is drawn, -/
def drawnAccess : Store where
  graph := people.addLink 0 "CAN_ACCESS" 0 1 (by decide) (by decide) (by decide)
  written := [.link 0]

/-- and with the time. -/
def seenAccess : Store where
  graph := drawnAccess.graph.setProp (.link 0) firstSeenKey (.ofInt64 0)
  written := drawnAccess.written ++ [.link 0]

/-- The row with the link that the merge makes. -/
def grantedRow : Binding := (Matchlink.bound accessRow 0 1).bind "r" (.element (.link 0))

/-- The row with the link that the merge finds. -/
def takenRow : Binding :=
  (((Matchlink.bound accessRow 0 1).bind "src" (.element (.node 0))).bind "r"
    (.element (.link 0))).bind "tgt" (.element (.node 1))

/-- The load of the one row, once it has found its nodes.  What the merge does
    to it depends on the links of the graph. -/
theorem access_exec {cx : Context} {s s₁ s₂ : Store} {out : List Binding}
    (hfound : clausesExec cx (access.ingestion.take 3) { store := s, rows := [Binding.empty] }
      { store := s, rows := [Matchlink.bound accessRow 0 1] })
    (hmerge : (mergePath "src" access.relationship "tgt").Merges cx [setFirstSeen "r"]
      (Matchlink.bound accessRow 0 1) s out s₁)
    (hset : (Clause.set (setFields "r" access.relationship.properties)).Exec cx
      { store := s₁, rows := out } { store := s₂, rows := out }) :
    access.ingestion.Exec cx s s₂ out := by
  have hmerged : (mergeLink "src" access.relationship "tgt").Exec cx
      { store := s, rows := [Matchlink.bound accessRow 0 1] } { store := s₁, rows := out } :=
    ⟨out, s₁, [], hmerge, ⟨rfl, rfl⟩, (List.append_nil out).symm⟩
  show clausesExec _ (access.ingestion.take 3 ++ access.ingestion.drop 3) _ _
  exact clausesExec_append.2 ⟨_, hfound, _, hmerged, _, hset, rfl⟩

/-- A team loads the row, and the merge makes a link. -/
theorem grantedTo_exec (scopeId : Json)
    (hfound : clausesExec (teams.sending (scopedParameters 1 scopeId) [accessRow])
      (access.ingestion.take 3) { store := idle.store, rows := [Binding.empty] }
      { store := idle.store, rows := [Matchlink.bound accessRow 0 1] })
    (hassigned : applyItems (teams.sending (scopedParameters 1 scopeId) [accessRow]) grantedRow
      (setFields "r" access.relationship.properties) seenAccess = some (grantedTo scopeId)) :
    ∃ out, access.ingestion.Exec (teams.sending (scopedParameters 1 scopeId) [accessRow])
      idle.store (grantedTo scopeId) out := by
  have hmerge : (mergePath "src" access.relationship "tgt").Merges
      (teams.sending (scopedParameters 1 scopeId) [accessRow]) [setFirstSeen "r"]
      (Matchlink.bound accessRow 0 1) idle.store [grantedRow] seenAccess := by
    refine .inr ⟨rfl, grantedRow, drawnAccess, ?_, rfl, rfl⟩
    -- both ends are bound, so only the link is made
    exact ⟨0, _, _, ⟨rfl, by decide, rfl, rfl, rfl, rfl⟩, 1, _, _,
      ⟨rfl, by decide, rfl, rfl, rfl, rfl⟩, rfl, 0, by decide, by decide, by decide, rfl, rfl⟩
  have hset : (Clause.set (setFields "r" access.relationship.properties)).Exec
      (teams.sending (scopedParameters 1 scopeId) [accessRow])
      { store := seenAccess, rows := [grantedRow] }
      { store := grantedTo scopeId, rows := [grantedRow] } :=
    ⟨[grantedRow], grantedTo scopeId, [], ⟨hassigned, rfl⟩, ⟨rfl, rfl⟩, rfl⟩
  exact ⟨_, access_exec hfound hmerge hset⟩

/-- So does the first team. -/
theorem granted_exec : ∃ out, access.ingestion.Exec
    (teams.sending (teamParameters false) [accessRow]) idle.store granted out :=
  grantedTo_exec (.string "a") ⟨_, rfl, _, rfl, _, rfl, rfl⟩ rfl

/-- The second team loads the row, and the merge finds the link. -/
theorem taken_exec : ∃ s out, access.ingestion.Exec
    (teams.sending (teamParameters true) [accessRow]) granted s out := by
  have hfound : (mergePath "src" access.relationship "tgt").matches
      (teams.sending (teamParameters true) [accessRow]) granted.graph
      (Matchlink.bound accessRow 0 1) = [takenRow] := rfl
  have hmerge : (mergePath "src" access.relationship "tgt").Merges
      (teams.sending (teamParameters true) [accessRow]) [setFirstSeen "r"]
      (Matchlink.bound accessRow 0 1) granted [takenRow] granted := by
    refine .inl ⟨?_, hfound.symm, rfl⟩
    rw [hfound]
    exact List.cons_ne_nil _ _
  exact ⟨_, _, access_exec ⟨_, rfl, _, rfl, _, rfl, rfl⟩ hmerge
    ⟨[takenRow], _, [], ⟨rfl, rfl⟩, ⟨rfl, rfl⟩, rfl⟩⟩

/-- What a team sends to load the row. -/
def teamLoad (i : Bool) : List (Event Bool) :=
  .load i (teamTag i) (teamParameters i) [.ok accessRow]
    :: teams.sends i access.indexes (teamParameters i) [accessRow]

/-- A team that is idle may load the row, if the ingestion can be carried
    out. -/
theorem team_run {σ : Shared Bool} {i : Bool} (hidle : σ.pending i = []) {s : Store}
    {out : List Binding}
    (hexec : access.ingestion.Exec (teams.sending (teamParameters i) [accessRow]) σ.store s out) :
    teams.Run σ (teamLoad i)
      (({ σ.withTag i (teamTag i) with store := s } : Shared Bool).withPending i []) := by
  have hscope : access.checkScope (teamParameters i) = .ok () := by cases i <;> rfl
  have hload : teams.schema.load [.ok accessRow] (teamParameters i) {} =
      Load.prepare "CAN_ACCESS" access.ingestion access.indexes [.ok accessRow]
        (teamParameters i) {} := by
    show (access.checkScope (teamParameters i) >>= fun _ => _) = _
    rw [hscope]
    rfl
  have hreads : ∀ name ∈ clauseParams access.ingestion,
      name = rowsParam ∨ (teamParameters i).contains name = true := by cases i <;> decide
  exact Tenancy.Run.of_row hidle (fun _ _ => rfl) (by cases i <;> rfl) hload hreads rfl hexec

/-- The database when the first team is through. -/
def first : Shared Bool :=
  ({ idle.withTag false 1 with store := granted } : Shared Bool).withPending false []

theorem first_idle (i : Bool) : first.pending i = [] := by
  cases i <;> simp [first, idle]

theorem first_run : teams.Run idle (teamLoad false) first := by
  obtain ⟨out, hexec⟩ := granted_exec
  exact team_run rfl hexec

/-- The second team loads the row after the first. -/
theorem second_run : ∃ σ out, teams.Run first (teamLoad true) σ ∧ σ.pending true = [] ∧
    access.ingestion.Exec (teams.sending (teamParameters true) [accessRow]) granted σ.store
      out := by
  obtain ⟨s, out, hexec⟩ := taken_exec
  exact ⟨_, out, team_run (first_idle true) hexec, by simp, hexec⟩

/-- Whatever the parameters, the row finds the person and the repository. -/
theorem access_finds (cx : Context) {g : Graph} (h : people.SameNodes g) :
    access.Finds cx g accessRow 0 1 := by
  rw [Matchlink.finds_congr h]
  refine ⟨by decide, ⟨by decide, ?_⟩, by decide, ⟨by decide, ?_⟩⟩
  · intro entry hentry
    rw [List.mem_singleton.1 hentry]
    rfl
  · intro entry hentry
    rw [List.mem_singleton.1 hentry]
    rfl

end Sample

/-- No one loads the row after the second team, so it has its link. -/
theorem last_team_keeps_its_link : ∃ L : Sample.teams.LatestLoad true,
    .ok Sample.accessRow ∈ L.rows ∧ ∃ l, L.last.store.graph.Joins l "CAN_ACCESS" .outward 0 1 ∧
      Sample.teams.Bears true (L.last.store.graph.prop (.link l)) := by
  obtain ⟨σ, out, hrun, hpending, -⟩ := Sample.second_run
  let L : Sample.teams.LatestLoad true :=
    { start := Sample.idle, before := Sample.teamLoad false, found := Sample.first
      tag := 2, params := Sample.teamParameters true, rows := [.ok Sample.accessRow]
      during := Sample.teams.sends true Sample.access.indexes (Sample.teamParameters true)
        [Sample.accessRow]
      loaded := σ, since := [], last := σ
      idle := fun _ => rfl, earlier := Sample.first_run, loading := hrun
      returned := ⟨hpending, by simp [Tenancy.sends]⟩, later := .nil σ
      latest := by simp [Tenancy.sends] }
  refine ⟨L, List.mem_singleton_self _, ?_⟩
  obtain ⟨batch, es, fs, -, hsplit, hlinks⟩ := Tenancy.links_stay_or_are_contested rfl
    Sample.access_built Sample.teams_recordsRun Sample.teams_markersDiffer L
    (List.mem_singleton_self _)
  have hnodes : Sample.people.SameNodes L.found.store.graph := ⟨fun _ => Iff.rfl, fun _ _ => rfl⟩
  rcases hlinks 0 1 (Sample.access_finds _ hnodes) with hstays | ⟨j, hj, p, batch', hsent, -⟩
  · exact hstays
  · -- all that is sent is sent by the second team
    rw [show L.since = [] from rfl, List.append_nil] at hsent
    have hmem : .sent j (.batch Sample.teams.schema.ingestion p batch') ∈ L.during := by
      rw [hsplit]
      exact List.mem_append_right _ (List.mem_cons_of_mem _ hsent)
    obtain ⟨_, heq⟩ := Tenancy.of_mem_sends hmem
    cases heq
    exact absurd rfl hj

/-- A link that the one team has drawn and the other loads again is the
    other's: the merge takes the link that it finds for its own, and with its
    markers the first team has lost it. -/
theorem contested_link_is_lost :
    Sample.teams.schema = .matchlink Sample.access ∧ Sample.access.Built ∧
      Sample.teams.schema.RecordsRun ∧ Sample.teams.MarkersDiffer ∧
      ¬ Sample.teams.KeepsLinks Sample.access := by
  refine ⟨rfl, Sample.access_built, Sample.teams_recordsRun, Sample.teams_markersDiffer, ?_⟩
  intro hkeeps
  obtain ⟨σ, out, hrun, -, hexec⟩ := Sample.second_run
  let L : Sample.teams.LatestLoad false :=
    { start := Sample.idle, before := [], found := Sample.idle
      tag := 1, params := Sample.teamParameters false, rows := [.ok Sample.accessRow]
      during := Sample.teams.sends false Sample.access.indexes (Sample.teamParameters false)
        [Sample.accessRow]
      loaded := Sample.first, since := Sample.teamLoad true, last := σ
      idle := fun _ => rfl, earlier := .nil _, loading := Sample.first_run
      returned := ⟨Sample.first_idle false, by simp [Tenancy.sends]⟩, later := hrun
      latest := by simp [Tenancy.sends, Sample.teamLoad] }
  have hsent : .sent false (.batch Sample.teams.schema.ingestion L.params [Sample.accessRow]) ∈
      L.during := List.mem_append_right _ (List.mem_singleton_self _)
  obtain ⟨l, hjoins, hbears⟩ := hkeeps false L _ hsent Sample.accessRow (List.mem_singleton_self _)
    0 1 (Sample.access_finds _ (Graph.SameNodes.refl _))
  -- the batch of the second team leaves no link of the first
  have hbatch : Sample.teams.Ingests true 2 (Sample.teamParameters true) [Sample.accessRow]
      Sample.granted.graph σ.store.graph :=
    ⟨fun _ _ => rfl, rfl, 0, Sample.granted, σ.store, out, rfl, rfl, hexec⟩
  have hnodes : Sample.people.SameNodes Sample.granted.graph :=
    ⟨fun _ => Iff.rfl, fun _ _ => rfl⟩
  have hreports : Sample.teams.Reports Sample.access Sample.granted.graph
      (Sample.teamParameters true) [Sample.accessRow] 0 1 :=
    ⟨Sample.accessRow, List.mem_singleton_self _, Sample.access_finds _ hnodes⟩
  have howned := ((hbatch.draws rfl Sample.access_built Sample.teams_recordsRun).2 0 1
    hreports).2 l hjoins
  have hfirst := hbears scopeIdKey (by decide)
  have hsecond := howned.bears scopeIdKey (by decide)
  have hsame : Json.string "b" = Json.string "a" := hsecond.symm.trans hfirst
  exact absurd (Json.string.inj hsame) (by decide)

end GraphSync
