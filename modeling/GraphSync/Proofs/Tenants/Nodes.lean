import GraphSync.Proofs.Tenants.Owners

/-! # Nodes of several tenants

    Tenants that load one node schema share its nodes: a node is merged by its
    id, and joined to the owner of each tenant that reports it.  It records one
    run, the last in which any tenant has loaded it, while the cleanup of each
    tenant compares that record with its own run.

    * `nodes_stay_or_are_contested`: a tenant keeps the nodes of its latest
      load, joined to its owner, unless another tenant has reported them too.
    * `shared_node_is_lost`: then the cleanup of the one deletes what both have
      reported. -/

namespace GraphSync

open Cypher Plan

variable {ι : Type}

namespace Tenancy

variable {T : Tenancy ι} {s : NodeSchema} {sub : Relationship} {i j : ι} {tag run : Int64}
  {p : Parameters} {batch : List Json} {g g' g₀ g₁ : Graph} {n m l : Nat} {v : Json}

/-! ## What a tenant holds -/

variable (T s) in
/-- A batch has a row with an id. -/
def Sends (p : Parameters) (batch : List Json) (v : Json) : Prop :=
  ∃ row ∈ batch, (T.sentId s p batch row).same v = some true

variable (T s sub) in
/-- Owners and nodes are tidy, and no node with an id is joined to the owner of
    another tenant. -/
structure Clear (g₀ : Graph) (i : ι) (v : Json) (g : Graph) : Prop where
  tidy  : Tidy s sub g₀ g
  alone : ∀ n, s.Identifies g v n → ∀ j ≠ i, ∀ m, T.Owner sub j g m →
    ∀ l, ¬ g.Joins l sub.label sub.direction n m

variable (T s sub) in
/-- There are nodes with an id.  They record the run of a tenant, and so do
    links that join them to its owner. -/
structure Held (i : ι) (tag : Int64) (v : Json) (g : Graph) : Prop where
  found  : ∃ n, s.Identifies g v n
  record : ∀ n, s.Identifies g v n → g.prop (.node n) lastUpdatedKey = .ofInt64 tag
  joined : ∀ n, s.Identifies g v n → ∀ m, T.Owner sub i g m →
    ∃ l, g.Joins l sub.label sub.direction n m ∧ g.prop (.link l) lastUpdatedKey = .ofInt64 tag

variable (T sub) in
/-- The parameters of a tenant select no owner that those of another do. -/
def Distinct (i : ι) (g : Graph) : Prop :=
  ∀ j ≠ i, ∀ m, T.Owner sub i g m → ¬ T.Owner sub j g m

variable (T s sub) in
/-- The nodes of the schema are no owners, and the parameters of a tenant select
    no owner that those of another do. -/
structure Separate (g : Graph) : Prop where
  apart    : ∀ n ∈ g.nodes, s.label ∈ g.labels n → sub.target.label ∉ g.labels n
  distinct : ∀ i, T.Distinct sub i g

/-! ## What statements keep -/

section Statements

variable (hT : T.Shares s sub)
include hT

/-- A batch gives no node an id that was there before without it. -/
theorem Ingests.identified (h : T.Ingests j run p batch g g') (hn : s.Identifies g' v n)
    (hmem : n ∈ g.nodes) : s.Identifies g v n := by
  obtain ⟨hextends, -⟩ := h.writes hT
  rcases hextends.node n hn.1 with hwrote | ⟨-, hsame⟩
  · refine ⟨hmem, hwrote.labelled hmem, ?_⟩
    show (g.prop (.node n) idKey).same v = some true
    rw [← hextends.id n hmem]
    exact hn.2.id
  · exact ⟨hmem, hsame ▸ hn.2⟩

theorem Ingests.clear (h : T.Ingests j run p batch g g') (hdistinct : T.Distinct sub i g₀)
    (hother : j ≠ i → ¬ T.Sends s p batch v) (hg : T.Clear s sub g₀ i v g) :
    T.Clear s sub g₀ i v g' := by
  have hg' := h.tidy hT hg.tidy
  refine ⟨hg', ?_⟩
  intro n hn k hk m hm l hl
  rcases h.link_cases hT hg.tidy hl hm.2.label with ⟨⟨row, hrow, hsent⟩, howner, -⟩ | ⟨hmem, hsame⟩
  · by_cases hj : j = i
    · -- the tenant's own batch joins nodes to the tenant's own owners
      subst hj
      exact hdistinct k hk m (hg'.owner_iff.1 howner) (hg'.owner_iff.1 hm)
    · exact hother hj ⟨row, hrow, hsent.same hn⟩
  · -- the link was there before, and so was the node
    have hjoins := Graph.joins_of_link_eq hmem hsame hl
    exact hg.alone n (h.identified hT hn (Graph.joins_mem hjoins).1) k hk m
      (hg.tidy.owner_iff.2 (hg'.owner_iff.1 hm)) l hjoins

/-- After a batch of a tenant the nodes of its rows are held. -/
theorem Ingests.held_of_mem (h : T.Ingests i tag p batch g g') {row : Json} (hrow : row ∈ batch) :
    T.Held s sub i tag (T.sentId s p batch row) g' := by
  obtain ⟨-, hrows⟩ := h.writes hT
  obtain ⟨hfound, hall⟩ := hrows row hrow
  refine ⟨hfound, fun n hn => (hall n hn).1.record, ?_⟩
  intro n hn m hm
  obtain ⟨⟨l, hl⟩, hdrew⟩ := (hall n hn).2 m hm
  exact ⟨l, hl, (hdrew l hl).record⟩

theorem Ingests.held (h : T.Ingests j run p batch g g') (hg : Tidy s sub g₀ g)
    (hown : j = i → run = tag) (hother : j ≠ i → ¬ T.Sends s p batch v)
    (hheld : T.Held s sub i tag v g) : T.Held s sub i tag v g' := by
  obtain ⟨hextends, hrows⟩ := h.writes hT
  have hg' := h.tidy hT hg
  obtain ⟨n₀, hn₀⟩ := hheld.found
  -- only a batch of the tenant itself has such a row
  have howner {row : Json} (hrow : row ∈ batch) {n : Nat} (hn : s.Identifies g' v n)
      (hsent : s.Identifies g' (T.sentId s p batch row) n) : j = i := by
    by_contra hj
    exact hother hj ⟨row, hrow, hsent.same hn⟩
  refine ⟨⟨n₀, hn₀.extend hextends⟩, ?_, ?_⟩
  · intro n hn
    rcases hextends.node n hn.1 with hwrote | ⟨hmem, hsame⟩
    · obtain ⟨row, hrow, hid⟩ := hwrote.row
      rw [← hown (howner hrow hn ⟨hn.1, hid⟩)]
      exact hwrote.record
    · rw [Graph.prop_of_node_eq hsame]
      exact hheld.record n (h.identified hT hn hmem)
  · intro n hn m hm
    rcases hextends.node n hn.1 with hwrote | ⟨hmem, -⟩
    · -- the batch has written the node, and drawn the link
      obtain ⟨row, hrow, hid⟩ := hwrote.row
      have hj := howner hrow hn ⟨hn.1, hid⟩
      subst hj
      obtain ⟨⟨l, hl⟩, hdrew⟩ := ((hrows row hrow).2 n ⟨hn.1, hid⟩).2 m hm
      rw [← hown rfl]
      exact ⟨l, hl, (hdrew l hl).record⟩
    · obtain ⟨l, hl, hrecord⟩ := hheld.joined n (h.identified hT hn hmem) m
        (hg.owner_iff.2 (hg'.owner_iff.1 hm))
      refine ⟨l, hextends.joins_of hl, ?_⟩
      rcases h.link_cases hT hg (hextends.joins_of hl) hm.2.label with
        ⟨⟨row, hrow, hsent⟩, -, hrun⟩ | ⟨-, hsame⟩
      · rw [← hown (howner hrow hn hsent)]
        exact hrun
      · have hprops : g'.prop (.link l) = g.prop (.link l) := congrArg LinkData.props hsame
        rw [hprops]
        exact hrecord

theorem Sweeps.clear (h : T.Sweeps j run g g') (hg : T.Clear s sub g₀ i v g) :
    T.Clear s sub g₀ i v g' := by
  have hg' := h.tidy hT hg.tidy
  refine ⟨hg', ?_⟩
  obtain ⟨dead, rfl, -, -, -⟩ := h.removed hT
  have hwithin := g.without_within dead
  intro n hn k hk m hm l hl
  exact hg.alone n ⟨hwithin.nodes hn.1, hn.2⟩ k hk m
    (hg.tidy.owner_iff.2 (hg'.owner_iff.1 hm)) l (hwithin.joins hl)

/-- A cleanup leaves what a tenant holds: in the run of the tenant it is not
    stale, and it does not belong to another. -/
theorem Sweeps.held (h : T.Sweeps j run g g') (hdistinct : T.Distinct sub i g₀)
    (hown : j = i → run = tag) (hclear : T.Clear s sub g₀ i v g)
    (hheld : T.Held s sub i tag v g) :
    T.Held s sub i tag v g' ∧ ∀ n, s.Identifies g v n → s.Identifies g' v n := by
  have hg := hclear.tidy
  have hg' := h.tidy hT hg
  obtain ⟨dead, rfl, hstale, hnodes, hlinks⟩ := h.removed hT
  have hfresh {e : Element} (hj : j = i) (he : e ∈ dead) :
      g.prop e lastUpdatedKey ≠ .ofInt64 tag := hown hj ▸ hstale e he
  have hnode {n : Nat} (hn : s.Identifies g v n) : .node n ∉ dead := by
    intro hdead
    by_cases hj : j = i
    · exact hfresh hj hdead (hheld.record n hn)
    · obtain ⟨-, l, m, hjoins, hm⟩ := hnodes n hdead
      exact hclear.alone n hn j hj m hm l hjoins
  have hstays {n : Nat} (hn : s.Identifies g v n) : s.Identifies (g.without dead) v n :=
    ⟨Graph.mem_nodes_without.2 ⟨hn.1, hnode hn⟩, hn.2⟩
  have hback {n : Nat} (hn : s.Identifies (g.without dead) v n) : s.Identifies g v n :=
    ⟨(Graph.mem_nodes_without.1 hn.1).1, hn.2⟩
  obtain ⟨n₀, hn₀⟩ := hheld.found
  refine ⟨⟨⟨n₀, hstays hn₀⟩, fun n hn => hheld.record n (hback hn), ?_⟩, fun n => hstays⟩
  intro n hn m hm
  have hm := hg.owner_iff.2 (hg'.owner_iff.1 hm)
  obtain ⟨l, hl, hrecord⟩ := hheld.joined n (hback hn) m hm
  -- neither end of the link is removed, and then the link is not either
  have howner : .node m ∉ dead := by
    intro hdead
    exact hg.apart m hm.1 (hnodes m hdead).1 hm.2.label
  have hlink : .link l ∉ dead := by
    intro hdead
    by_cases hj : j = i
    · exact hfresh hj hdead hrecord
    · have hjoined : (g.link l).Joins sub.label sub.direction n m := hl.2
      rcases hlinks l hdead with ⟨n', m', hjoins, hm'⟩ | ⟨rel, hrel, n', m', hlabel, hjoins⟩
      · obtain ⟨-, -, rfl⟩ := hjoined.unique (Graph.joins_iff_link.1 hjoins).2
        exact hdistinct j hj m (hg.owner_iff.1 hm) (hg.owner_iff.1 hm')
      · -- the link runs the other way, so the owner would be a node of the schema
        have hd := Ne.symm (hT.others rel hrel (hjoins.2.1.symm.trans hl.2.1))
        obtain ⟨-, rfl⟩ := hjoined.reversed (Graph.joins_iff_link.1 hjoins).2 hd
        exact hg.apart m hm.1 hlabel hm.2.label
  exact ⟨l, Graph.joins_without hl hlink (hnode (hback hn)) howner, hrecord⟩

/-! ## Runs -/

variable {events : List (Event ι)} {R : ι → Int64 → Prop}

omit hT in
variable (T s) in
/-- No other tenant sends a row with an id. -/
def Spares (i : ι) (v : Json) (events : List (Event ι)) : Prop :=
  ∀ j ≠ i, ∀ p batch, .sent j (.batch T.schema.ingestion p batch) ∈ events →
    ¬ T.Sends s p batch v

theorem keeps_clear (hdistinct : T.Distinct sub i g₀) (hspares : T.Spares s i v events) :
    T.Keeps events R (T.Clear s sub g₀ i v) := by
  constructor
  · intro j run p batch g g' hsent _ hbatch hg
    exact hbatch.clear hT hdistinct (fun hj => hspares j hj p batch hsent) hg
  · intro j run g g' _ hsweep hg
    exact hsweep.clear hT hg

theorem keeps_held (hdistinct : T.Distinct sub i g₀) (hspares : T.Spares s i v events)
    (hR : ∀ j run, R j run → j = i → run = tag) :
    T.Keeps events R fun g => T.Clear s sub g₀ i v g ∧ T.Held s sub i tag v g := by
  constructor
  · intro j run p batch g g' hsent hrun hbatch hg
    refine ⟨(keeps_clear hT hdistinct hspares).batch hsent hrun hbatch hg.1, ?_⟩
    exact hbatch.held hT hg.1.tidy (hR j run hrun) (fun hj => hspares j hj p batch hsent) hg.2
  · intro j run g g' hrun hsweep hg
    exact ⟨hsweep.clear hT hg.1, (hsweep.held hT hdistinct (hR j run hrun) hg.1 hg.2).1⟩

/-- Nodes with the id that there were at some point go on to be there. -/
theorem keeps_nodes (hdistinct : T.Distinct sub i g₀) (hspares : T.Spares s i v events)
    (hR : ∀ j run, R j run → j = i → run = tag) :
    T.Keeps events R fun g => (T.Clear s sub g₀ i v g ∧ T.Held s sub i tag v g) ∧
      ∀ n, s.Identifies g₁ v n → s.Identifies g v n := by
  have hkeeps := keeps_held (R := R) hT hdistinct hspares hR
  constructor
  · intro j run p batch g g' hsent hrun hbatch hg
    refine ⟨hkeeps.batch hsent hrun hbatch hg.1, ?_⟩
    intro n hn
    exact (hg.2 n hn).extend (hbatch.writes hT).1
  · intro j run g g' hrun hsweep hg
    refine ⟨hkeeps.sweep hrun hsweep hg.1, ?_⟩
    intro n hn
    exact (hsweep.held hT hdistinct (hR j run hrun) hg.1.1 hg.1.2).2 n (hg.2 n hn)

end Statements

namespace LatestLoad

variable [DecidableEq ι]

variable (s sub) in
/-- Another tenant has to do with the nodes of an id, since a load has begun:
    they are joined to its owner at the beginning, or it sends a row with the
    id later. -/
def Contested (L : T.LatestLoad i) (v : Json) : Prop :=
  ∃ j ≠ i,
    (∃ n m l, s.Identifies L.found.store.graph v n ∧ T.Owner sub j L.found.store.graph m ∧
      L.found.store.graph.Joins l sub.label sub.direction n m) ∨
    ∃ p batch, .sent j (.batch T.schema.ingestion p batch) ∈ L.after ∧ T.Sends s p batch v

variable (s sub) in
/-- At the end there are nodes with an id, all that there were when the load
    returned, and each is joined to the owners of the tenant. -/
structure Retains (L : T.LatestLoad i) (v : Json) : Prop where
  found  : ∃ n, s.Identifies L.last.store.graph v n
  kept   : ∀ n, s.Identifies L.loaded.store.graph v n → n ∈ L.last.store.graph.nodes
  joined : ∀ n, s.Identifies L.last.store.graph v n → ∀ m, T.Owner sub i L.start.store.graph m →
    ∃ l, L.last.store.graph.Joins l sub.label sub.direction n m

theorem found_tidy (hT : T.Shares s sub) (L : T.LatestLoad i)
    (hL : T.Separate s sub L.start.store.graph) :
    Tidy s sub L.start.store.graph L.found.store.graph := by
  have hkeeps : T.Keeps L.before (fun _ _ => True) (Tidy s sub L.start.store.graph) :=
    ⟨fun _ _ hbatch => hbatch.tidy hT, fun _ hsweep => hsweep.tidy hT⟩
  exact (L.earlier.keeps (.of_idle L.idle) (fun _ _ _ => trivial) (fun _ _ _ _ _ => trivial) hkeeps
    ⟨.refl _ _, hL.apart⟩).2

/-- A load that no other tenant contests keeps the nodes of a batch. -/
theorem retains_of_sent (hT : T.Shares s sub) (L : T.LatestLoad i)
    (hL : T.Separate s sub L.start.store.graph) {row : Json} (hrow : row ∈ batch)
    (hsent : .sent i (.batch T.schema.ingestion L.params batch) ∈ L.during)
    (hcontested : ¬ L.Contested s sub (T.sentId s L.params batch row)) :
    L.Retains s sub (T.sentId s L.params batch row) := by
  obtain ⟨es, fs, hsplit⟩ := List.mem_iff_append.1 hsent
  generalize hv : T.sentId s L.params batch row = v at hcontested ⊢
  -- nobody contests the id, so all events spare it
  have hspares {events : List (Event ι)} (hsub : events ⊆ L.after) : T.Spares s i v events :=
    fun j hj p batch hmem hsends => hcontested ⟨j, hj, .inr ⟨p, batch, hsub hmem, hsends⟩⟩
  have hduring : L.during ⊆ L.after := List.subset_append_left _ _
  have hsince : L.since ⊆ L.after := List.subset_append_right _ _
  have hfs : fs ⊆ L.during := by
    rw [hsplit]
    exact List.Subset.trans (List.subset_cons_self _ _) (List.subset_append_right _ _)
  have hfound : T.Clear s sub L.start.store.graph i v L.found.store.graph := by
    refine ⟨L.found_tidy hT hL, ?_⟩
    intro n hn j hj m hm l hl
    exact hcontested ⟨j, hj, .inl ⟨n, m, l, hn, hm, hl⟩⟩
  have hloaded := L.at_loaded hsplit (keeps_clear hT (hL.distinct i) (hspares hduring))
    (keeps_held hT (hL.distinct i) (hspares (List.Subset.trans hfs hduring)) fun _ _ hrun => hrun)
    (fun g g' hbatch _ => hv ▸ hbatch.held_of_mem hT hrow) hfound
  obtain ⟨⟨hclear, hheld⟩, hkept⟩ := L.at_last
    (keeps_nodes hT (hL.distinct i) (hspares hsince) fun _ _ hrun => hrun)
    ⟨hloaded, fun _ hn => hn⟩
  refine ⟨hheld.found, fun n hn => (hkept n hn).1, ?_⟩
  intro n hn m hm
  obtain ⟨l, hl, -⟩ := hheld.joined n hn m (hclear.tidy.owner_iff.2 hm)
  exact ⟨l, hl⟩

end LatestLoad

variable [DecidableEq ι]

/-- Every row of the latest load of a tenant was in some batch.  The tenant
    keeps the nodes with the id of the row, or else another tenant has to do
    with them. -/
theorem nodes_stay_or_are_contested (hT : T.Shares s sub) (L : T.LatestLoad i)
    (hL : T.Separate s sub L.start.store.graph) {row : Json} (hrow : .ok row ∈ L.rows) :
    ∃ batch, row ∈ batch ∧ .sent i (.batch T.schema.ingestion L.params batch) ∈ L.during ∧
      (L.Retains s sub (T.sentId s L.params batch row) ∨
        L.Contested s sub (T.sentId s L.params batch row)) := by
  obtain ⟨batch, hmem, hsent⟩ := L.sent_of_row hrow
  refine ⟨batch, hmem, hsent, ?_⟩
  by_cases hcontested : L.Contested s sub (T.sentId s L.params batch row)
  · exact .inr hcontested
  · exact .inl (L.retains_of_sent hT hL hmem hsent hcontested)

variable (T s sub) in
/-- Every tenant keeps the nodes of its latest load, at the end of every run in
    which all calls have returned. -/
def KeepsNodes : Prop :=
  ∀ i (L : T.LatestLoad i), T.Separate s sub L.start.store.graph →
    (∀ j, ∃ m, T.Owner sub j L.start.store.graph m) → (∀ j, L.last.pending j = []) →
    ∀ batch, .sent i (.batch T.schema.ingestion L.params batch) ∈ L.during →
    ∀ row ∈ batch, L.Retains s sub (T.sentId s L.params batch row)

end Tenancy

/-! ## A node that two tenants report -/

namespace Sample

/-- Hosts of an account, and no more about them. -/
def ownedHosts : NodeSchema := { hosts with others := [] }

/-- The relationship to the account. -/
def ownership : Relationship where
  label := "RESOURCE"
  direction := .inward
  target := { label := "Account", matcher := [(idKey, .param "ACCOUNT")] }
  properties := [(lastUpdatedKey, .param lastUpdatedKey)]
  source := none

theorem ownedHosts_built : (Schema.node ownedHosts).Built := by
  refine ⟨⟨{ label := "Host", properties := hosts.properties, subResource := some ownership }, rfl⟩,
    ?_⟩
  intro rel hrel
  obtain rfl : rel = ownership := List.mem_singleton.1 hrel
  exact ⟨{ label := "RESOURCE", direction := .inward, target := some ownership.target,
           properties := ownership.properties }, rfl⟩

/-- The accounts `a` and `b`. -/
def twoAccounts : Graph where
  nodes := [0, 1]
  links := []
  labels _ := {"Account"}
  type _ := ""
  source _ := 0
  target _ := 1
  prop e key :=
    if key = idKey then
      match e with
      | .node 0 => .string "a"
      | .node 1 => .string "b"
      | _ => .null
    else .null
  nodes_nodup := show (List.range 2).Nodup from List.nodup_range
  links_nodup := List.nodup_nil
  ends_mem := fun _ hl => absurd hl List.not_mem_nil

/-- The row that both accounts report. -/
def hostRow : Json := .object [("id", .string "x")]

/-- The run in which an account reports it. -/
def accountTag (i : Bool) : Int64 := if i then 2 else 1

/-- The parameters of an account. -/
def accountParameters (i : Bool) : Parameters :=
  Parameters.ofRun (accountTag i) [("ACCOUNT", .string (if i then "b" else "a"))]

def accounts : Tenancy Bool where
  schema := .node ownedHosts
  scope := accountParameters
  lower := id

theorem accounts_shares : accounts.Shares ownedHosts ownership where
  schema := rfl
  built := ownedHosts_built
  scope := rfl
  records := by
    unfold Schema.RecordsRun
    decide
  names := by decide
  label := by decide
  others := by
    intro rel hrel
    cases hrel

/-- Nothing has been loaded yet. -/
def vacant : Shared Bool where
  store := { graph := twoAccounts, written := [] }
  pending _ := []
  tag _ := none

/-- What the load of an account is evaluated with. -/
def reporting (i : Bool) : Context := accounts.sending (accountParameters i) [hostRow]

/-- The account that a tenant selects. -/
def accountOf (i : Bool) : Nat := if i then 1 else 0

section Join

variable (i : Bool) (s : Store) (hl : accountOf i ∉ s.graph.links)
  (ha : accountOf i ∈ s.graph.nodes) (hn : 2 ∈ s.graph.nodes)

/-- A link from an account to the host. -/
def drawLink : Store where
  graph := s.graph.addLink (accountOf i) "RESOURCE" (accountOf i) 2 hl ha hn
  written := s.written ++ [.link (accountOf i)]

/-- It records when it is made, -/
def seenLink : Store where
  graph := (drawLink i s hl ha hn).graph.setProp (.link (accountOf i)) firstSeenKey (.ofInt64 0)
  written := (drawLink i s hl ha hn).written ++ [.link (accountOf i)]

/-- and the run. -/
def joinHost : Store where
  graph :=
    (seenLink i s hl ha hn).graph.setProp (.link (accountOf i)) lastUpdatedKey
      (.ofInt64 (accountTag i))
  written := (seenLink i s hl ha hn).written ++ [.link (accountOf i)]

end Join

/-- The row with its node, when only these two are kept. -/
theorem hostRow_kept :
    [NodeSchema.bound hostRow 2] = [(NodeSchema.bound hostRow 2).only ["i", rowAlias]] := by
  rw [NodeSchema.only_bound]

/-- The row with its node, the account and the link. -/
def hostLink (i : Bool) : Binding :=
  (NodeSchema.target hostRow 2 (accountOf i)).bind "r" (.element (.link (accountOf i)))

/-- The last clauses of a load join the host to the account, if it is not. -/
theorem joinHost_exec {i : Bool} {s : Store} (hl : accountOf i ∉ s.graph.links)
    (ha : accountOf i ∈ s.graph.nodes) (hn : 2 ∈ s.graph.nodes)
    (hfound : Path.foundOrNull (reporting i) s.graph (NodeSchema.bound hostRow 2)
        { start := endpointPattern "j" ownership.target }
        (endpointConditions "j" ownership.target) =
      [NodeSchema.target hostRow 2 (accountOf i)])
    (hnone : (mergePath "i" ownership "j").matches (reporting i) s.graph
      (NodeSchema.target hostRow 2 (accountOf i)) = []) :
    ∃ out, clausesExec (reporting i)
      [.withVars ["i", rowAlias] [] none, .call [NodeSchema.attach ownership]]
      { store := s, rows := [NodeSchema.bound hostRow 2] }
      { store := joinHost i s hl ha hn, rows := out } := by
  have hwith : (Clause.withVars ["i", rowAlias] [] none).Exec (reporting i)
      { store := s, rows := [NodeSchema.bound hostRow 2] }
      { store := s, rows := [NodeSchema.bound hostRow 2] } := ⟨rfl, hostRow_kept⟩
  have hmatch : (Clause.matching true { start := endpointPattern "j" ownership.target }
      (endpointConditions "j" ownership.target)).Exec (reporting i)
      { store := s, rows := [NodeSchema.bound hostRow 2] }
      { store := s, rows := [NodeSchema.target hostRow 2 (accountOf i)] } := by
    simp only [Clause.Exec, List.flatMap_cons, List.flatMap_nil, if_true, hfound]
    rfl
  have hkept : (Clause.withVars ["i", rowAlias, "j"] [.isNotNull (.var "j")] none).Exec
      (reporting i) { store := s, rows := [NodeSchema.target hostRow 2 (accountOf i)] }
      { store := s, rows := [NodeSchema.target hostRow 2 (accountOf i)] } := by
    refine ⟨rfl, ?_⟩
    show _ = List.filter _ [(NodeSchema.target hostRow 2 (accountOf i)).only ["i", rowAlias, "j"]]
    rw [NodeSchema.only_target]
    rfl
  -- both ends are bound, so only the link is made
  have hcreates : (mergePath "i" ownership "j").Creates (reporting i)
      (NodeSchema.target hostRow 2 (accountOf i)) s (hostLink i) (drawLink i s hl ha hn) :=
    ⟨2, _, _, ⟨rfl, hn, rfl, rfl, rfl, rfl⟩, accountOf i, _, _, ⟨rfl, ha, rfl, rfl, rfl, rfl⟩, rfl,
      accountOf i, hl, hn, ha, rfl, rfl⟩
  have hmerge : (mergeLink "i" ownership "j").Exec (reporting i)
      { store := s, rows := [NodeSchema.target hostRow 2 (accountOf i)] }
      { store := seenLink i s hl ha hn, rows := [hostLink i] } :=
    ⟨[hostLink i], _, [], .inr ⟨hnone, _, _, hcreates, rfl, rfl⟩, ⟨rfl, rfl⟩, rfl⟩
  have hset : (Clause.set (setFields "r" ownership.properties)).Exec (reporting i)
      { store := seenLink i s hl ha hn, rows := [hostLink i] }
      { store := joinHost i s hl ha hn, rows := [hostLink i] } := by
    refine ⟨[hostLink i], _, [], ⟨?_, rfl⟩, ⟨rfl, rfl⟩, rfl⟩
    cases i <;> rfl
  have hbranch : clausesExec (reporting i) (NodeSchema.attach ownership)
      { store := s, rows := [NodeSchema.bound hostRow 2] }
      { store := joinHost i s hl ha hn, rows := [hostLink i] } :=
    ⟨_, hwith, _, hmatch, _, hkept, _, hmerge, _, hset, rfl⟩
  have hcall : (Clause.call [NodeSchema.attach ownership]).Exec (reporting i)
      { store := s, rows := [NodeSchema.bound hostRow 2] }
      { store := joinHost i s hl ha hn, rows := [NodeSchema.bound hostRow 2] } :=
    ⟨[NodeSchema.bound hostRow 2], _, [], ⟨⟨_, hbranch, rfl⟩, rfl⟩, ⟨rfl, rfl⟩, rfl⟩
  exact ⟨_, _, hwith, _, hcall, rfl⟩

/-- The first clauses of a load, for the one row.  What the merge does to it
    depends on the graph. -/
theorem ownedHosts_exec {i : Bool} {s s₁ s₂ s₃ : Store} {out : List Binding}
    (hmerge : Path.Merges (reporting i) { start := ownedHosts.pattern } [setFirstSeen "i"]
      (NodeSchema.unbound hostRow) s [NodeSchema.bound hostRow 2] s₁)
    (hset : applyItems (reporting i) (NodeSchema.bound hostRow 2)
      (setFields "i" ownedHosts.assigned) s₁ = some s₂)
    (hjoin : clausesExec (reporting i)
      [.withVars ["i", rowAlias] [] none, .call [NodeSchema.attach ownership]]
      { store := s₂, rows := [NodeSchema.bound hostRow 2] } { store := s₃, rows := out }) :
    ownedHosts.ingestion.Exec (reporting i) s s₃ out := by
  have hunwind : unwindRows.Exec (reporting i) { store := s, rows := [Binding.empty] }
      { store := s, rows := [NodeSchema.unbound hostRow] } := by
    cases i <;> rfl
  have hmerged : (Clause.merge { start := ownedHosts.pattern } [setFirstSeen "i"]).Exec
      (reporting i) { store := s, rows := [NodeSchema.unbound hostRow] }
      { store := s₁, rows := [NodeSchema.bound hostRow 2] } :=
    ⟨[NodeSchema.bound hostRow 2], s₁, [], hmerge, ⟨rfl, rfl⟩, rfl⟩
  have hassigned : (Clause.set (setFields "i" ownedHosts.assigned)).Exec (reporting i)
      { store := s₁, rows := [NodeSchema.bound hostRow 2] }
      { store := s₂, rows := [NodeSchema.bound hostRow 2] } :=
    ⟨[NodeSchema.bound hostRow 2], s₂, [], ⟨hset, rfl⟩, ⟨rfl, rfl⟩, rfl⟩
  exact ⟨_, hunwind, _, hmerged, _, hassigned, hjoin⟩

/-- The first account makes the host, -/
def newHost : Store where
  graph := twoAccounts.addNode 2 ownedHosts.pattern.labels.toFinset
    (ownedHosts.pattern.given (reporting false) twoAccounts (NodeSchema.unbound hostRow))
    (by decide)
  written := [.node 2]

/-- records when, -/
def seenHost : Store where
  graph := newHost.graph.setProp (.node 2) firstSeenKey (.ofInt64 0)
  written := newHost.written ++ [.node 2]

/-- and the run. -/
def madeHost : Store where
  graph := seenHost.graph.setProp (.node 2) lastUpdatedKey (.ofInt64 1)
  written := seenHost.written ++ [.node 2]

/-- The host of the first account. -/
def ownedHost : Store := joinHost false madeHost (by decide) (by decide) (by decide)

/-- The first account loads the row, and the merge makes a host. -/
theorem ownedHost_exec :
    ∃ out, ownedHosts.ingestion.Exec (reporting false) vacant.store ownedHost out := by
  obtain ⟨out, hjoin⟩ := joinHost_exec (i := false) (s := madeHost) (by decide) (by decide)
    (by decide) rfl rfl
  have hcreates : Path.Creates (reporting false) (NodeSchema.unbound hostRow) vacant.store
      { start := ownedHosts.pattern } (NodeSchema.bound hostRow 2) newHost := by
    refine ⟨2, _, _, ⟨?_, rfl, ?_, rfl⟩, rfl, rfl⟩ <;> decide
  have hmerge : Path.Merges (reporting false) { start := ownedHosts.pattern } [setFirstSeen "i"]
      (NodeSchema.unbound hostRow) vacant.store [NodeSchema.bound hostRow 2] seenHost :=
    .inr ⟨rfl, _, _, hcreates, rfl, rfl⟩
  exact ⟨out, ownedHosts_exec hmerge rfl hjoin⟩

/-- The host, as the second account has loaded it again. -/
def reloadedHost : Store where
  graph := ownedHost.graph.setProp (.node 2) lastUpdatedKey (.ofInt64 2)
  written := ownedHost.written ++ [.node 2]

/-- The host of both accounts. -/
def sharedHost : Store := joinHost true reloadedHost (by decide) (by decide) (by decide)

/-- The second account loads the row, and the merge finds the host. -/
theorem sharedHost_exec :
    ∃ out, ownedHosts.ingestion.Exec (reporting true) ownedHost sharedHost out := by
  obtain ⟨out, hjoin⟩ := joinHost_exec (i := true) (s := reloadedHost) (by decide) (by decide)
    (by decide) rfl rfl
  have hfound : Path.matches (reporting true) ownedHost.graph (NodeSchema.unbound hostRow)
      { start := ownedHosts.pattern } = [NodeSchema.bound hostRow 2] := rfl
  have hmerge : Path.Merges (reporting true) { start := ownedHosts.pattern } [setFirstSeen "i"]
      (NodeSchema.unbound hostRow) ownedHost [NodeSchema.bound hostRow 2] ownedHost := by
    refine .inl ⟨?_, hfound.symm, rfl⟩
    rw [hfound]
    exact List.cons_ne_nil _ _
  exact ⟨out, ownedHosts_exec hmerge rfl hjoin⟩

/-- What an account sends to load the row. -/
def accountLoad (i : Bool) : List (Event Bool) :=
  .load i (accountTag i) (accountParameters i) [.ok hostRow]
    :: accounts.sends i ownedHosts.indexes (accountParameters i) [hostRow]

/-- An account that is idle may load the row, if the ingestion can be carried
    out. -/
theorem account_run {σ : Shared Bool} {i : Bool} (hidle : σ.pending i = []) {s : Store}
    {out : List Binding} (hexec : ownedHosts.ingestion.Exec (reporting i) σ.store s out) :
    accounts.Run σ (accountLoad i)
      (({ σ.withTag i (accountTag i) with store := s } : Shared Bool).withPending i []) := by
  have hreads : ∀ name ∈ clauseParams ownedHosts.ingestion,
      name = rowsParam ∨ (accountParameters i).contains name = true := by cases i <;> decide
  exact Tenancy.Run.of_row hidle (fun _ _ => rfl) (by cases i <;> rfl) rfl hreads rfl hexec

/-- The database when the first account is through, and then the second. -/
def loadedOnce : Shared Bool :=
  ({ vacant.withTag false 1 with store := ownedHost } : Shared Bool).withPending false []

def loadedTwice : Shared Bool :=
  ({ loadedOnce.withTag true 2 with store := sharedHost } : Shared Bool).withPending true []

theorem loadedOnce_run : accounts.Run vacant (accountLoad false) loadedOnce := by
  obtain ⟨out, hexec⟩ := ownedHost_exec
  exact account_run rfl hexec

theorem loadedTwice_run : accounts.Run loadedOnce (accountLoad true) loadedTwice := by
  obtain ⟨out, hexec⟩ := sharedHost_exec
  exact account_run (by simp [loadedOnce, vacant]) hexec

/-- The cleanup of the first account. -/
def accountJob : CleanupJob where
  label := "Host"
  queries := ownedHosts.cleanup
  params := accountParameters false

theorem accountJob_hasJob : accounts.schema.HasJob accountJob := by
  refine ⟨accountJob.params, CleanupJob.ofNodeSchema_eq_ok ?_⟩
  decide

/-- The cleanup of the first account leaves no host. -/
theorem cleanup_run : ∃ events σ, accounts.Run loadedTwice events σ ∧
    (∀ j tag p rows, .load j tag p rows ∉ events) ∧ (∀ j, σ.pending j = []) ∧
    ∀ n ∈ σ.store.graph.nodes, "Host" ∉ σ.store.graph.labels n := by
  have hsession : Session (ε := String) accounts.lower (accountJob.tasks {}) loadedTwice.store
      (((Database.eager id).follow 2 0 (accountJob.tasks {}) sharedHost).1.map .ok)
      ((Database.eager id).follow 2 0 (accountJob.tasks {}) sharedHost).2 :=
    Database.follow_session (Database.eager_faithful accountJob_hasJob {} (by decide) id _)
      (fun t ht s count s' h => accountJob_hasJob.within ht h) 2 0 (Graph.Within.refl _)
  obtain ⟨events, rest, hrun, hevents, hrest⟩ :=
    Tenancy.Run.of_session (T := accounts) false hsession rfl
  obtain rfl := hrest rfl
  have hidle (j : Bool) : loadedTwice.pending j = [] := by
    cases j <;> simp [loadedTwice, loadedOnce, vacant]
  have hcleanup : accounts.Step loadedTwice (.cleanup false 1)
      (loadedTwice.withPending false (accountJob.tasks {})) :=
    .cleanup (hidle false) rfl accountJob_hasJob (fun _ _ => rfl) rfl
  refine ⟨_, _, .cons hcleanup hrun, ?_, ?_, ?_⟩
  · rintro j tag p rows hmem
    rcases List.mem_cons.1 hmem with heq | hmem
    · cases heq
    · rcases hevents _ hmem with heq | ⟨t, heq⟩ <;> cases heq
  · intro j
    cases j <;> simp [loadedTwice, loadedOnce, vacant]
  · decide

theorem owner_iff {i : Bool} {m : Nat} :
    accounts.Owner ownership i twoAccounts m ↔ m = accountOf i := by
  have hselects : ownership.target.Selects (accounts.owning i) (fun _ => .null) twoAccounts m ↔
      (twoAccounts.prop (.node m) idKey).same ((accountParameters i).value "ACCOUNT") =
        some true := by
    constructor
    · intro h
      exact h.fields _ (List.mem_singleton_self _)
    · intro h
      refine ⟨List.mem_cons_self, ?_⟩
      intro entry hentry
      rw [List.mem_singleton.1 hentry]
      exact h
  unfold Tenancy.Owner
  rw [hselects]
  constructor
  · rintro ⟨hm, hsame⟩
    rcases List.mem_pair.1 hm with rfl | rfl <;> cases i <;>
      first | rfl | exact absurd hsame (by decide)
  · rintro rfl
    cases i <;> decide

theorem accounts_separate : accounts.Separate ownedHosts ownership twoAccounts where
  apart := by decide
  distinct := by
    intro i j hj m hi hm
    have hsame := (owner_iff.1 hi).symm.trans (owner_iff.1 hm)
    cases i <;> cases j <;> first | exact hj rfl | exact absurd hsame (by decide)

/-- The load of the first account, and what comes later. -/
def firstLoad {since : List (Event Bool)} {last : Shared Bool}
    (later : accounts.Run loadedOnce since last)
    (latest : ∀ tag p rows, .load false tag p rows ∉ since) : accounts.LatestLoad false where
  start := vacant
  before := []
  found := vacant
  tag := 1
  params := accountParameters false
  rows := [.ok hostRow]
  during := accounts.sends false ownedHosts.indexes (accountParameters false) [hostRow]
  loaded := loadedOnce
  since := since
  last := last
  idle _ := rfl
  earlier := .nil _
  loading := loadedOnce_run
  returned := ⟨by simp [loadedOnce], by simp [Tenancy.sends]⟩
  later := later
  latest := by
    intro tag p rows hmem
    rcases List.mem_append.1 hmem with hmem | hmem
    · simp [Tenancy.sends] at hmem
    · exact latest tag p rows hmem

end Sample

/-- No one else reports the host of the first account, so the account keeps
    it. -/
theorem lone_account_keeps_its_host : ∃ L : Sample.accounts.LatestLoad false,
    .ok Sample.hostRow ∈ L.rows ∧ L.last.store.graph.nodes = [0, 1, 2] ∧
      L.Retains Sample.ownedHosts Sample.ownership (.string "x") := by
  let L := Sample.firstLoad (.nil Sample.loadedOnce) (by simp)
  refine ⟨L, List.mem_singleton_self _, rfl, ?_⟩
  obtain ⟨batch, -, -, hretains | ⟨j, hj, hfound | ⟨p, batch', hsent, -⟩⟩⟩ :=
    Tenancy.nodes_stay_or_are_contested Sample.accounts_shares L Sample.accounts_separate
      (List.mem_singleton_self _)
  · exact hretains
  · -- at the beginning there are no hosts
    obtain ⟨n, m, l, hn, -⟩ := hfound
    have hlabel : "Host" ∈ ({"Account"} : Finset String) := hn.2.label
    exact absurd hlabel (by decide)
  · -- all that is sent is sent by the first account
    have hmem : .sent j (.batch Sample.accounts.schema.ingestion p batch') ∈ L.during := by
      rcases List.mem_append.1 hsent with hmem | hmem
      · exact hmem
      · cases hmem
    obtain ⟨_, heq⟩ := Tenancy.of_mem_sends hmem
    cases heq
    exact absurd rfl hj

/-- A host that two accounts report is deleted by the cleanup of the one whose
    run it does not record, although both have just reported it. -/
theorem shared_node_is_lost :
    Sample.accounts.Shares Sample.ownedHosts Sample.ownership ∧
      ¬ Sample.accounts.KeepsNodes Sample.ownedHosts Sample.ownership := by
  refine ⟨Sample.accounts_shares, ?_⟩
  intro hkeeps
  obtain ⟨events, σ, hcleanup, hloads, hidle, hgone⟩ := Sample.cleanup_run
  let L := Sample.firstLoad (Sample.loadedTwice_run.append hcleanup) (by
    intro tag p rows hmem
    rcases List.mem_append.1 hmem with hmem | hmem
    · simp [Sample.accountLoad, Tenancy.sends] at hmem
    · exact hloads false tag p rows hmem)
  have hsent : .sent false (.batch Sample.accounts.schema.ingestion L.params [Sample.hostRow]) ∈
      L.during := List.mem_append_right _ (List.mem_singleton_self _)
  have hretains := hkeeps false L Sample.accounts_separate
    (fun j => ⟨_, Sample.owner_iff.2 rfl⟩) hidle _ hsent Sample.hostRow (List.mem_singleton_self _)
  obtain ⟨n, hn⟩ := hretains.found
  exact hgone n hn.1 hn.2.label

end GraphSync
