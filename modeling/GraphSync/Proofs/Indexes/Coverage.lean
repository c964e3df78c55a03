import GraphSync.Proofs.Cleanup.Job
import GraphSync.Proofs.Indexes.Lookups
import GraphSync.Proofs.Indexes.Order
import GraphSync.Proofs.Ingestion.Load
import GraphSync.Proofs.Lexing.Parameters

/-! # Indexes cover look-ups

    The index statements of a schema are sent before anything else.  They are
    what the queries of the schema need, no more and no less, and no statement
    is sent twice.

    * `Schema.Needs` is the need, in terms of the compiled queries: a node index
      for every label and key that one of them looks up, and an index for each
      property that asks for one.
    * `indexes_cover_lookups`: the texts are those of the needed indexes, each
      once, in the order in which the schema first requires them. -/

namespace GraphSync

open Cypher

/-- Index statements are told apart by their texts, whatever the names. -/
theorem Cypher.Index.text_injective : Function.Injective Index.text := by
  intro i j h
  refine Index.tokens_injective (Option.some.inj ?_)
  calc some i.tokens = lex i.text := i.lexes.symm
    _ = lex j.text := congrArg lex h
    _ = some j.tokens := j.lexes

namespace Schema

/-- The relationships that a schema writes. -/
def relationships : Schema → List Relationship
  | .node s => s.relationships
  | .matchlink m => [m.relationship]

/-- The indexes that a schema needs. -/
inductive Needs : Schema → Index → Prop where
  /-- A query looks up nodes. -/
  | lookup {schema : Schema} {q : Query} {label key : String} :
      q ∈ schema.ingestion :: schema.cleanup → q.LooksUp label key →
        Needs schema (.node label key)
  /-- Nodes are told apart by their ids, whether or not a query has to look. -/
  | id {s : NodeSchema} : Needs (.node s) (.node s.label idKey)
  | run {s : NodeSchema} : Needs (.node s) (.node s.label lastUpdatedKey)
  | property {s : NodeSchema} {key : String} {r : Reference} :
      (key, r) ∈ s.properties → r.extraIndex = true → Needs (.node s) (.node s.label key)
  | link {schema : Schema} {rel : Relationship} {key : String} {r : Reference} :
      rel ∈ schema.relationships → (key, r) ∈ rel.properties → r.extraIndex = true →
        Needs schema (.relationship rel.label [key])
  /-- Cleanup finds the stale links of one sub-resource. -/
  | links {m : Matchlink} : Needs (.matchlink m)
      (.relationship m.relationship.label [lastUpdatedKey, scopeLabelKey, scopeIdKey])

/-- The places at which a schema requires an index. -/
def RequiredAt : Schema → List Nat → Index → Prop
  | .node s => s.RequiredAt
  | .matchlink m => m.RequiredAt

end Schema

/-- A field that is compared has a number in the matcher. -/
theorem Endpoint.looks_iff_exists {e : Endpoint} {label key : String} :
    e.Looks label key ↔ label = e.label ∧ ∃ (n : Nat) (r : Reference),
      e.matcher[n]? = some (key, r) := by
  refine and_congr_right fun _ => ?_
  unfold Fields.keys
  rw [List.mem_map]
  constructor
  · rintro ⟨⟨field, r⟩, hentry, rfl⟩
    obtain ⟨n, hn⟩ := List.mem_iff_getElem?.1 hentry
    exact ⟨n, r, hn⟩
  · rintro ⟨n, r, hn⟩
    exact ⟨(key, r), List.mem_iff_getElem?.2 ⟨n, hn⟩, rfl⟩

/-- A node schema requires what it needs, and nothing else. -/
theorem NodeSchema.needs_iff {s : NodeSchema} {i : Index} :
    (Schema.node s).Needs i ↔ ∃ p, s.RequiredAt p i := by
  have htarget {rel : Relationship} {label key : String} (hrel : rel ∈ s.relationships)
      (hlooks : rel.target.Looks label key) : ∃ p, s.RequiredAt p (.node label key) := by
    obtain ⟨m, hm⟩ := List.mem_iff_getElem?.1 hrel
    obtain ⟨rfl, n, r, hn⟩ := Endpoint.looks_iff_exists.1 hlooks
    exact ⟨_, .target hm hn⟩
  constructor
  · intro h
    cases h with
    | lookup hq hlooks =>
      rcases List.mem_cons.1 hq with rfl | hq
      · obtain ⟨rfl, rfl, -⟩ | ⟨rel, hrel, htests⟩ := looksUp_ingestion.1 hlooks
        · exact ⟨_, .id⟩
        · exact htarget hrel htests
      -- the owner of a cleanup is the target of the first relationship
      · obtain ⟨rfl, rfl⟩ | ⟨sub, hsub, htests⟩ := looks_of_cleanup hq hlooks
        · exact ⟨_, .run⟩
        · exact htarget (List.mem_append_left _ (Option.mem_toList.2 hsub)) htests
    | id => exact ⟨_, .id⟩
    | run => exact ⟨_, .run⟩
    | property hentry hextra =>
      obtain ⟨n, hn⟩ := List.mem_iff_getElem?.1 hentry
      exact ⟨_, .property hn hextra⟩
    | link hrel hentry hextra =>
      obtain ⟨m, hm⟩ := List.mem_iff_getElem?.1 hrel
      obtain ⟨n, hn⟩ := List.mem_iff_getElem?.1 hentry
      exact ⟨_, .link hm hn hextra⟩
  · rintro ⟨p, h⟩
    cases h with
    | id => exact .id
    | run => exact .run
    | property hn hextra => exact .property (List.mem_iff_getElem?.2 ⟨_, hn⟩) hextra
    | target hm hn =>
      -- targets are looked up when they are attached, whatever is cleaned up
      have hlooks := Endpoint.looks_iff_exists.2 ⟨rfl, _, _, hn⟩
      exact .lookup List.mem_cons_self
        (looksUp_ingestion.2 (.inr ⟨_, List.mem_iff_getElem?.2 ⟨_, hm⟩, hlooks⟩))
    | link hm hn hextra =>
      exact .link (List.mem_iff_getElem?.2 ⟨_, hm⟩) (List.mem_iff_getElem?.2 ⟨_, hn⟩) hextra

theorem Matchlink.needs_iff {m : Matchlink} {i : Index} :
    (Schema.matchlink m).Needs i ↔ ∃ p, m.RequiredAt p i := by
  constructor
  · intro h
    cases h with
    | lookup hq hlooks =>
      rcases List.mem_cons.1 hq with rfl | hq
      · obtain hlooks | hlooks := looksUp_ingestion.1 hlooks
        · obtain ⟨rfl, n, r, hn⟩ := Endpoint.looks_iff_exists.1 hlooks
          exact ⟨_, .source hn⟩
        · obtain ⟨rfl, n, r, hn⟩ := Endpoint.looks_iff_exists.1 hlooks
          exact ⟨_, .target hn⟩
      · rw [List.mem_singleton.1 hq] at hlooks
        exact absurd hlooks not_looksUp_cleanup
    | link hrel hentry hextra =>
      rw [List.mem_singleton.1 hrel] at hentry ⊢
      obtain ⟨n, hn⟩ := List.mem_iff_getElem?.1 hentry
      exact ⟨_, .link hn hextra⟩
    | links => exact ⟨_, .links⟩
  · rintro ⟨p, h⟩
    cases h with
    | source hn =>
      have hlooks := Endpoint.looks_iff_exists.2 ⟨rfl, _, _, hn⟩
      exact .lookup List.mem_cons_self (looksUp_ingestion.2 (.inl hlooks))
    | target hn =>
      have hlooks := Endpoint.looks_iff_exists.2 ⟨rfl, _, _, hn⟩
      exact .lookup List.mem_cons_self (looksUp_ingestion.2 (.inr hlooks))
    | links => exact .links
    | link hn hextra =>
      exact .link (List.mem_singleton_self _) (List.mem_iff_getElem?.2 ⟨_, hn⟩) hextra

namespace Schema

/-- The parts of a schema at their places. -/
def placed : Schema → Placed Index
  | .node s => s.placed
  | .matchlink m => m.placed

theorem indexes_eq (schema : Schema) : schema.indexes = (schema.placed.map (·.2)).eraseDups := by
  cases schema with
  | node s => exact congrArg List.eraseDups s.map_placed.symm
  | matchlink m => exact congrArg List.eraseDups m.map_placed.symm

theorem sorted_placed (schema : Schema) : schema.placed.Sorted := by
  cases schema with
  | node s => exact s.sorted_placed
  | matchlink m => exact m.sorted_placed

theorem mem_placed {schema : Schema} {p : List Nat} {i : Index} :
    (p, i) ∈ schema.placed ↔ schema.RequiredAt p i := by
  cases schema with
  | node s => exact NodeSchema.mem_placed
  | matchlink m => exact Matchlink.mem_placed

theorem mem_indexes {schema : Schema} {i : Index} : i ∈ schema.indexes ↔ schema.Needs i := by
  have hneeds : schema.Needs i ↔ ∃ p, schema.RequiredAt p i := by
    cases schema with
    | node s => exact NodeSchema.needs_iff
    | matchlink m => exact Matchlink.needs_iff
  rw [hneeds, indexes_eq, List.mem_eraseDups, List.mem_map]
  constructor
  · rintro ⟨⟨p, j⟩, hplaced, rfl⟩
    exact ⟨p, mem_placed.1 hplaced⟩
  · rintro ⟨p, hrequired⟩
    exact ⟨(p, i), mem_placed.2 hrequired, rfl⟩

/-- The statements of a schema are those of the indexes that it needs, none of
    them twice, and each comes before those that are first required later. -/
theorem indexes_cover_lookups (schema : Schema) :
    (schema.indexes.map Index.text).Nodup ∧
      (∀ i : Index, i.text ∈ schema.indexes.map Index.text ↔ schema.Needs i) ∧
      schema.indexes.Pairwise fun i j =>
        ∃ p, schema.RequiredAt p i ∧ ∀ q, schema.RequiredAt q j → p < q := by
  refine ⟨?_, fun i => ?_, ?_⟩
  · rw [indexes_eq]
    exact (nodup_eraseDups _).map Index.text_injective
  · rw [List.mem_map_of_injective Index.text_injective]
    exact mem_indexes
  · have hordered := schema.sorted_placed.pairwise_eraseDups
    rw [← indexes_eq] at hordered
    simpa only [mem_placed] using hordered

end Schema

end GraphSync
