import GraphSync.Plan.Cleanup
import GraphSync.Plan.Ingestion
import GraphSync.Proofs.Lexing.Printer

/-! # Variables of compiled queries

    The variables and columns of compiled queries do not come from the schema,
    and all of them are plain words.  This is what the tokens of a printed
    query rest on (`Query.lexes`). -/

namespace GraphSync

open Cypher Plan

/-! ## Parts -/

theorem Reference.expr_plain (r : Reference) : r.expr.Plain := by
  unfold expr
  cases r.origin with
  | row => trivial
  | parameter => trivial

namespace Plan

variable {var : String}

theorem endpointPattern_plain (hvar : PlainWord var) (e : Endpoint) :
    (endpointPattern var e).Plain where
  var := by
    intro v hv
    cases hv
    exact hvar
  props := by
    intro p hp
    obtain ⟨⟨field, r⟩, -, hentry⟩ := List.mem_filterMap.1 hp
    simp only [patternProp] at hentry
    split at hentry
    · cases hentry
      exact r.expr_plain
    · cases hentry

theorem endpointConditions_plain (hvar : PlainWord var) (e : Endpoint) :
    ∀ c ∈ endpointConditions var e, c.Plain := by
  intro c hc
  obtain ⟨⟨field, r⟩, -, hentry⟩ := List.mem_filterMap.1 hc
  have hr := r.expr_plain
  simp only [fieldCondition] at hentry
  split at hentry
  · cases hentry
  all_goals
    cases hentry
    exact ⟨hvar, hr⟩

theorem setFields_plain (hvar : PlainWord var) (fields : Fields) :
    ∀ i ∈ setFields var fields, i.Plain := by
  intro i hi
  obtain ⟨⟨key, r⟩, -, rfl⟩ := List.mem_map.1 hi
  exact ⟨hvar, r.expr_plain⟩

theorem setFirstSeen_plain (hvar : PlainWord var) : (setFirstSeen var).Plain := ⟨hvar, trivial⟩

theorem stale_plain (hvar : PlainWord var) : (stale var).Plain := ⟨hvar, trivial⟩

theorem deleteWindow_plain (detach : Bool) (hvar : PlainWord var) :
    clausesPlain (deleteWindow detach var) := by
  have hcolumn : PlainWord deletedColumn := by decide
  simp [deleteWindow, clausesPlain, Clause.Plain, Expr.Plain, hvar, hcolumn]

/-- A path with one hop. -/
theorem path_plain {start finish : NodePattern} {rel : RelPattern} (hstart : start.Plain)
    (hrel : ∀ v ∈ rel.var, PlainWord v) (hfinish : finish.Plain) :
    Path.Plain { start := start, hops := [(rel, finish)] } where
  start := hstart
  hops := by
    intro hop hhop
    cases List.mem_singleton.1 hhop
    exact ⟨hrel, hfinish⟩

/-- A path with a node only. -/
theorem node_plain {start : NodePattern} (hstart : start.Plain) :
    Path.Plain { start := start } where
  start := hstart
  hops := by
    intro hop hhop
    cases hhop

/-- A node pattern with a label only, or with a variable too. -/
theorem pattern_plain {v : Option String} (hv : ∀ w ∈ v, PlainWord w) (labels : List String) :
    NodePattern.Plain { var := v, labels := labels } where
  var := hv
  props := by
    intro p hp
    cases hp

theorem unwindRows_plain : unwindRows.Plain := ⟨trivial, by decide⟩

theorem mergeLink_plain {left right : String} (hleft : PlainWord left) (rel : Relationship)
    (hright : PlainWord right) : (mergeLink left rel right).Plain := by
  have hr : PlainWord "r" := by decide
  constructor
  · apply path_plain
    · exact pattern_plain (by simpa using hleft) []
    · simpa using hr
    · exact pattern_plain (by simpa using hright) []
  · intro i hi
    cases List.mem_singleton.1 hi
    exact setFirstSeen_plain hr

end Plan

/-! ## Ingestion queries -/

namespace NodeSchema

theorem identity_plain (s : NodeSchema) : ∀ p ∈ s.identity, p.2.Plain := by
  intro p hp
  obtain ⟨r, -, rfl⟩ := List.mem_map.1 hp
  exact r.expr_plain

theorem attach_plain (rel : Relationship) : clausesPlain (attach rel) := by
  have hi : PlainWord "i" := by decide
  have hj : PlainWord "j" := by decide
  have hr : PlainWord "r" := by decide
  have hrow : PlainWord rowAlias := by decide
  have hkeep : (Clause.withVars ["i", rowAlias] [] none).Plain := by
    simp [Clause.Plain, hi, hrow]
  have hfound : (Clause.withVars ["i", rowAlias, "j"] [.isNotNull (.var "j")] none).Plain := by
    simp [Clause.Plain, Condition.Plain, Expr.Plain, hi, hrow, hj]
  exact ⟨hkeep,
    ⟨node_plain (endpointPattern_plain hj rel.target), endpointConditions_plain hj rel.target⟩,
    hfound, mergeLink_plain hi rel hj, setFields_plain hr rel.properties, trivial⟩

theorem ingestion_plain (s : NodeSchema) : s.ingestion.Plain := by
  have hi : PlainWord "i" := by decide
  have hrow : PlainWord rowAlias := by decide
  have hnode : NodePattern.Plain
      { var := some "i", labels := [s.label], props := s.identity } :=
    ⟨by simpa using hi, s.identity_plain⟩
  have hstamp : ∀ i ∈ [setFirstSeen "i"], i.Plain := by
    intro i hmem
    cases List.mem_singleton.1 hmem
    exact setFirstSeen_plain hi
  have hset := setFields_plain hi (s.properties.filter fun entry => entry.1 != idKey)
  have hlabels : clausesPlain
      (if s.extraLabels.isEmpty then [] else [.set [.labels "i" s.extraLabels]]) := by
    split
    · trivial
    · simp [clausesPlain, Clause.Plain, SetItem.Plain, hi]
  have hcall : clausesPlain (if s.relationships.isEmpty then []
      else [.withVars ["i", rowAlias] [] none, .call (s.relationships.map attach)]) := by
    split
    · trivial
    · have hbranches : branchesPlain (s.relationships.map attach) := by
        apply branchesPlain_of_forall
        intro branch hbranch
        obtain ⟨rel, -, rfl⟩ := List.mem_map.1 hbranch
        exact attach_plain rel
      simp [clausesPlain, Clause.Plain, hi, hrow, hbranches]
  refine clausesPlain_append (clausesPlain_append ?_ hlabels) hcall
  exact ⟨unwindRows_plain, ⟨node_plain hnode, hstamp⟩, hset, trivial⟩

end NodeSchema

theorem Matchlink.ingestion_plain (m : Matchlink) : m.ingestion.Plain := by
  have hsource : PlainWord "src" := by decide
  have htarget : PlainWord "tgt" := by decide
  have hr : PlainWord "r" := by decide
  exact ⟨unwindRows_plain,
    ⟨node_plain (endpointPattern_plain hsource m.source),
      endpointConditions_plain hsource m.source⟩,
    ⟨node_plain (endpointPattern_plain htarget m.relationship.target),
      endpointConditions_plain htarget m.relationship.target⟩,
    mergeLink_plain hsource m.relationship htarget,
    setFields_plain hr m.relationship.properties, trivial⟩

/-! ## Cleanup queries -/

namespace NodeSchema

theorem ownedPath_plain (s : NodeSchema) (sub : Relationship) {relVar : Option String}
    (h : ∀ v ∈ relVar, PlainWord v) : (s.ownedPath sub relVar).Plain := by
  have hn : PlainWord "n" := by decide
  have howner : PlainWord "owner" := by decide
  exact path_plain (pattern_plain (by simpa using hn) _) h (endpointPattern_plain howner sub.target)

theorem linkPath_plain {left : NodePattern} (h : left.Plain) (rel : Relationship) :
    (linkPath left rel).Plain := by
  have hr : PlainWord "r" := by decide
  exact path_plain h (by simpa using hr) (pattern_plain (by simp) _)

theorem cleanup_plain (s : NodeSchema) : ∀ q ∈ s.cleanup, q.Plain := by
  have hn : PlainWord "n" := by decide
  have hr : PlainWord "r" := by decide
  have hs : PlainWord "s" := by decide
  have howner : PlainWord "owner" := by decide
  have hnode : NodePattern.Plain { var := some "n", labels := [s.label] } :=
    pattern_plain (by simpa using hn) _
  have hbound : NodePattern.Plain { var := some "n" } := pattern_plain (by simpa using hn) _
  have hstale {v : String} (hv : PlainWord v) : ∀ c ∈ [stale v], c.Plain := by
    simpa using stale_plain hv
  have howned (sub : Relationship) {v : String} (hv : PlainWord v) :
      ∀ c ∈ stale v :: endpointConditions "owner" sub.target, c.Plain := by
    rw [List.forall_mem_cons]
    exact ⟨stale_plain hv, endpointConditions_plain howner sub.target⟩
  have hlinks (rel : Relationship) : (s.cleanupAllLinks rel).Plain :=
    ⟨⟨linkPath_plain hnode rel, hstale hr⟩, deleteWindow_plain false hr⟩
  intro q hq
  unfold cleanup at hq
  cases hscope : s.scope with
  | subResource sub =>
    simp only [hscope, List.mem_cons, List.mem_map] at hq
    rcases hq with rfl | rfl | ⟨rel, -, rfl⟩
    · exact ⟨⟨s.ownedPath_plain sub (by simp), howned sub hn⟩, deleteWindow_plain true hn⟩
    · exact ⟨⟨s.ownedPath_plain sub (by simpa using hs), howned sub hs⟩,
        deleteWindow_plain false hs⟩
    · exact ⟨⟨s.ownedPath_plain sub (by simp), endpointConditions_plain howner sub.target⟩,
        ⟨linkPath_plain hbound rel, hstale hr⟩, deleteWindow_plain false hr⟩
  | relationshipsOnly =>
    simp only [hscope, List.mem_map] at hq
    obtain ⟨rel, -, rfl⟩ := hq
    exact hlinks rel
  | unscoped =>
    simp only [hscope, List.mem_cons, List.mem_map] at hq
    rcases hq with rfl | ⟨rel, -, rfl⟩
    · exact ⟨⟨node_plain hnode, hstale hn⟩, deleteWindow_plain true hn⟩
    · exact hlinks rel

end NodeSchema

theorem Matchlink.cleanup_plain (m : Matchlink) : m.cleanup.Plain := by
  have hr : PlainWord "r" := by decide
  refine ⟨⟨?_, ?_⟩, deleteWindow_plain false hr⟩
  · exact path_plain (pattern_plain (by simp) _) (by simpa using hr) (pattern_plain (by simp) _)
  · simp [stale, Condition.Plain, Expr.Plain, hr]

end GraphSync
