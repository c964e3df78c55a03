import GraphSync.Plan.Indexes
import Mathlib.Data.List.Range
import Mathlib.Data.List.Pairwise

/-! # The order of indexes

    A schema is gone through part by part, and each part may require an index.
    The place of a requirement is the list of numbers on the way to it: the
    part of the schema, its entry, and so on inwards.  Places are ordered as
    words are, so those of an earlier part come before those of a later one.

    * `NodeSchema.RequiredAt` and `Matchlink.RequiredAt` say what is required
      at which place.
    * `placed` is the walk itself, with its places: it lists the look-ups of the
      schema (`map_placed`) at the places where they are required
      (`mem_placed`), in the order of the places (`sorted_placed`).
    * `Placed.Sorted.pairwise_eraseDups`: what such a walk meets, each once, is
      in the order of the first places. -/

namespace GraphSync

open Cypher

/-! ## Places -/

/-- Things with the places at which they stand. -/
abbrev Placed (α : Type) := List (List Nat × α)

namespace Placed

variable {α : Type}

/-- Every place comes before those that follow. -/
def Sorted (l : Placed α) : Prop := l.Pairwise fun x y => x.1 < y.1

/-- A thing by itself. -/
def here (a : α) : Placed α := [([], a)]

/-- Blocks one after the other, each under its number. -/
def inTurn (blocks : List (Placed α)) : Placed α :=
  blocks.zipIdx.flatMap fun (block, n) => block.map fun (p, a) => (n :: p, a)

@[simp] theorem map_here (a : α) : (here a).map (·.2) = [a] := rfl

@[simp] theorem mem_here {a b : α} {p : List Nat} : (p, b) ∈ here a ↔ p = [] ∧ b = a := by
  simp [here]

theorem sorted_nil : Sorted ([] : Placed α) := .nil

theorem sorted_here (a : α) : (here a).Sorted := List.pairwise_singleton _ _

@[simp] theorem map_inTurn (blocks : List (Placed α)) :
    (inTurn blocks).map (·.2) = blocks.flatMap fun block => block.map (·.2) := by
  have hnumbers : blocks.zipIdx.map Prod.fst = blocks := List.zipIdx_map_fst 0 blocks
  conv_rhs => rw [← hnumbers, List.flatMap_map]
  unfold inTurn
  rw [List.map_flatMap]
  simp only [List.map_map, Function.comp_def]

theorem mem_inTurn {blocks : List (Placed α)} {p : List Nat} {a : α} :
    (p, a) ∈ inTurn blocks ↔
      ∃ n q block, p = n :: q ∧ blocks[n]? = some block ∧ (q, a) ∈ block := by
  unfold inTurn
  rw [List.mem_flatMap]
  constructor
  · rintro ⟨⟨block, n⟩, hblock, hmem⟩
    obtain ⟨⟨q, b⟩, hb, heq⟩ := List.mem_map.1 hmem
    cases heq
    exact ⟨n, q, block, rfl, List.mk_mem_zipIdx_iff_getElem?.1 hblock, hb⟩
  · rintro ⟨n, q, block, rfl, hblock, hmem⟩
    exact ⟨(block, n), List.mk_mem_zipIdx_iff_getElem?.2 hblock, List.mem_map.2 ⟨(q, a), hmem, rfl⟩⟩

theorem sorted_inTurn {blocks : List (Placed α)} (h : ∀ block ∈ blocks, block.Sorted) :
    (inTurn blocks).Sorted := by
  have hnumbers : blocks.zipIdx.Pairwise fun x y => x.2 < y.2 := by
    rw [← List.pairwise_map (f := Prod.snd) (R := (· < ·)), List.zipIdx_map_snd]
    exact List.pairwise_lt_range' 1
  -- within a block the numbers in front are equal, and between blocks they decide
  refine List.pairwise_flatMap.2 ⟨?_, hnumbers.imp ?_⟩
  · rintro ⟨block, n⟩ hblock
    refine List.pairwise_map.2 ((h block (List.fst_mem_of_mem_zipIdx hblock)).imp ?_)
    intro x y hxy
    exact List.cons_lt_cons_iff.2 (.inr ⟨rfl, hxy⟩)
  · rintro ⟨block, n⟩ ⟨block', n'⟩ hlt x hx y hy
    obtain ⟨_, -, rfl⟩ := List.mem_map.1 hx
    obtain ⟨_, -, rfl⟩ := List.mem_map.1 hy
    exact List.cons_lt_cons_iff.2 (.inl hlt)

/-- Each thing once, in the order of the first places. -/
theorem Sorted.pairwise_eraseDups [DecidableEq α] : ∀ {l : Placed α}, l.Sorted →
    (l.map (·.2)).eraseDups.Pairwise fun a b => ∃ p, (p, a) ∈ l ∧ ∀ q, (q, b) ∈ l → p < q
  | [], _ => .nil
  | (p, a) :: rest, h => by
    obtain ⟨hfirst, hrest⟩ := List.pairwise_cons.1 h
    -- the first thing is left out of the rest, so the others keep their places there
    have hlater : ((rest.map (·.2)).filter fun b => !b == a) =
        (rest.filter fun x => !x.2 == a).map (·.2) := List.filter_map
    have ih := Sorted.pairwise_eraseDups (List.Pairwise.filter (fun x => !x.2 == a) hrest)
    have hkept {q : List Nat} {b : α} (hb : b ≠ a) :
        (q, b) ∈ rest.filter (fun x => !x.2 == a) ↔ (q, b) ∈ (p, a) :: rest := by
      simp [hb]
    have hother {b : α} (hb : b ∈ ((rest.filter fun x => !x.2 == a).map (·.2)).eraseDups) :
        b ≠ a := by
      rw [List.mem_eraseDups] at hb
      obtain ⟨x, hx, rfl⟩ := List.mem_map.1 hb
      simpa using (List.mem_filter.1 hx).2
    rw [List.map_cons, List.eraseDups_cons, hlater]
    refine List.pairwise_cons.2 ⟨fun b hb => ⟨p, List.mem_cons_self, fun q hq => ?_⟩, ?_⟩
    · rcases List.mem_cons.1 hq with hq | hq
      · exact absurd (congrArg Prod.snd hq) (hother hb)
      · exact hfirst (q, b) hq
    · refine ih.imp_of_mem ?_
      rintro b c hb hc ⟨q, hq, hbefore⟩
      exact ⟨q, (hkept (hother hb)).1 hq, fun r hr => hbefore r ((hkept (hother hc)).2 hr)⟩
termination_by l => l.length
decreasing_by exact Nat.lt_succ_of_le (List.length_filter_le _ _)

end Placed

/-! ## The parts of a schema -/

open Placed

/-- The fields of a matcher. -/
def Endpoint.placed (e : Endpoint) : Placed Index :=
  inTurn (e.matcher.map fun (field, _) => here (.node e.label field))

/-- The entries that ask for an index of their own. -/
def Fields.placedExtra (fields : Fields) (index : String → Index) : Placed Index :=
  inTurn (fields.map fun (key, r) => if r.extraIndex then here (index key) else [])

theorem Endpoint.map_placed (e : Endpoint) : e.placed.map (·.2) = e.indexes := by
  unfold placed indexes
  rw [map_inTurn, List.flatMap_map]
  exact List.map_eq_flatMap.symm

theorem Endpoint.mem_placed {e : Endpoint} {p : List Nat} {i : Index} :
    (p, i) ∈ e.placed ↔
      ∃ n field r, p = [n] ∧ e.matcher[n]? = some (field, r) ∧ i = .node e.label field := by
  unfold placed
  simp only [mem_inTurn, List.getElem?_map, Option.map_eq_some_iff]
  constructor
  · rintro ⟨n, q, block, rfl, ⟨⟨field, r⟩, hentry, rfl⟩, hmem⟩
    obtain ⟨rfl, rfl⟩ := mem_here.1 hmem
    exact ⟨n, field, r, rfl, hentry, rfl⟩
  · rintro ⟨n, field, r, rfl, hentry, rfl⟩
    exact ⟨n, [], _, rfl, ⟨(field, r), hentry, rfl⟩, mem_here.2 ⟨rfl, rfl⟩⟩

theorem Endpoint.sorted_placed (e : Endpoint) : e.placed.Sorted := by
  refine sorted_inTurn fun block hblock => ?_
  obtain ⟨_, -, rfl⟩ := List.mem_map.1 hblock
  exact sorted_here _

namespace Fields

theorem map_placedExtra (fields : Fields) (index : String → Index) :
    (fields.placedExtra index).map (·.2) = fields.indexedKeys.map index := by
  unfold placedExtra indexedKeys
  rw [map_inTurn, List.flatMap_map]
  induction fields with
  | nil => rfl
  | cons entry rest ih =>
    rw [List.flatMap_cons, ih, List.filter_cons]
    cases hextra : entry.2.extraIndex <;> simp [hextra]

theorem mem_placedExtra {fields : Fields} {index : String → Index} {p : List Nat} {i : Index} :
    (p, i) ∈ fields.placedExtra index ↔
      ∃ n key r, p = [n] ∧ fields[n]? = some (key, r) ∧ r.extraIndex = true ∧ i = index key := by
  unfold placedExtra
  simp only [mem_inTurn, List.getElem?_map, Option.map_eq_some_iff]
  constructor
  · rintro ⟨n, q, block, rfl, ⟨⟨key, r⟩, hentry, rfl⟩, hmem⟩
    by_cases hextra : r.extraIndex = true
    · rw [if_pos hextra] at hmem
      obtain ⟨rfl, rfl⟩ := mem_here.1 hmem
      exact ⟨n, key, r, rfl, hentry, hextra, rfl⟩
    · rw [if_neg hextra] at hmem
      cases hmem
  · rintro ⟨n, key, r, rfl, hentry, hextra, rfl⟩
    refine ⟨n, [], _, rfl, ⟨(key, r), hentry, rfl⟩, ?_⟩
    rw [if_pos hextra]
    exact mem_here.2 ⟨rfl, rfl⟩

theorem sorted_placedExtra (fields : Fields) (index : String → Index) :
    (fields.placedExtra index).Sorted := by
  refine sorted_inTurn fun block hblock => ?_
  obtain ⟨⟨key, r⟩, -, rfl⟩ := List.mem_map.1 hblock
  show Sorted (if r.extraIndex then here (index key) else [])
  split
  · exact sorted_here _
  · exact sorted_nil

end Fields

namespace Relationship

/-- The fields of the target, then the indexed properties. -/
def placed (rel : Relationship) : Placed Index :=
  inTurn [rel.target.placed, rel.properties.placedExtra fun key => .relationship rel.label [key]]

theorem map_placed (rel : Relationship) :
    rel.placed.map (·.2) = rel.target.indexes ++ rel.extraIndexes := by
  unfold placed extraIndexes
  simp only [map_inTurn, List.flatMap_cons, List.flatMap_nil, List.append_nil,
    Endpoint.map_placed, Fields.map_placedExtra]

theorem mem_placed {rel : Relationship} {p : List Nat} {i : Index} : (p, i) ∈ rel.placed ↔
    (∃ n field r, p = [0, n] ∧ rel.target.matcher[n]? = some (field, r) ∧
      i = .node rel.target.label field) ∨
    (∃ n key r, p = [1, n] ∧ rel.properties[n]? = some (key, r) ∧ r.extraIndex = true ∧
      i = .relationship rel.label [key]) := by
  constructor
  · intro h
    obtain ⟨k, q, block, rfl, hblock, hmem⟩ := mem_inTurn.1 h
    rcases k with _ | _ | k
    · cases hblock
      obtain ⟨n, field, r, rfl, hentry, rfl⟩ := Endpoint.mem_placed.1 hmem
      exact .inl ⟨n, field, r, rfl, hentry, rfl⟩
    · cases hblock
      obtain ⟨n, key, r, rfl, hentry, hextra, rfl⟩ := Fields.mem_placedExtra.1 hmem
      exact .inr ⟨n, key, r, rfl, hentry, hextra, rfl⟩
    · cases hblock
  · rintro (⟨n, field, r, rfl, hentry, rfl⟩ | ⟨n, key, r, rfl, hentry, hextra, rfl⟩)
    · exact mem_inTurn.2 ⟨0, [n], _, rfl, rfl,
        Endpoint.mem_placed.2 ⟨n, field, r, rfl, hentry, rfl⟩⟩
    · exact mem_inTurn.2 ⟨1, [n], _, rfl, rfl,
        Fields.mem_placedExtra.2 ⟨n, key, r, rfl, hentry, hextra, rfl⟩⟩

theorem sorted_placed (rel : Relationship) : rel.placed.Sorted := by
  refine sorted_inTurn ?_
  simp [Endpoint.sorted_placed, Fields.sorted_placedExtra]

end Relationship

/-! ## Nodes -/

namespace NodeSchema

/-- What a node schema requires: the look-ups of its own nodes, the indexed
    properties, and for each relationship the fields of the target and the
    indexed properties. -/
inductive RequiredAt (s : NodeSchema) : List Nat → Index → Prop where
  | id : RequiredAt s [0, 0] (.node s.label idKey)
  | run : RequiredAt s [0, 1] (.node s.label lastUpdatedKey)
  | property {n : Nat} {key : String} {r : Reference} :
      s.properties[n]? = some (key, r) → r.extraIndex = true →
        RequiredAt s [1, n] (.node s.label key)
  | target {m n : Nat} {rel : Relationship} {field : String} {r : Reference} :
      s.relationships[m]? = some rel → rel.target.matcher[n]? = some (field, r) →
        RequiredAt s [2, m, 0, n] (.node rel.target.label field)
  | link {m n : Nat} {rel : Relationship} {key : String} {r : Reference} :
      s.relationships[m]? = some rel → rel.properties[n]? = some (key, r) → r.extraIndex = true →
        RequiredAt s [2, m, 1, n] (.relationship rel.label [key])

def placed (s : NodeSchema) : Placed Index :=
  inTurn
    [inTurn [here (.node s.label idKey), here (.node s.label lastUpdatedKey)],
     s.properties.placedExtra (.node s.label),
     inTurn (s.relationships.map Relationship.placed)]

theorem map_placed (s : NodeSchema) : s.placed.map (·.2) = s.lookups := by
  unfold placed lookups
  simp only [map_inTurn, List.flatMap_cons, List.flatMap_nil, map_here, Fields.map_placedExtra,
    Relationship.map_placed, List.flatMap_map, List.append_nil, List.append_assoc]
  rfl

theorem mem_placed {s : NodeSchema} {p : List Nat} {i : Index} :
    (p, i) ∈ s.placed ↔ s.RequiredAt p i := by
  constructor
  · intro h
    -- the number of the block says which part of the schema it is
    obtain ⟨k, q, block, rfl, hblock, hmem⟩ := mem_inTurn.1 h
    rcases k with _ | _ | _ | k
    · cases hblock
      obtain ⟨k, q, block, rfl, hblock, hmem⟩ := mem_inTurn.1 hmem
      rcases k with _ | _ | k
      · cases hblock
        obtain ⟨rfl, rfl⟩ := mem_here.1 hmem
        exact .id
      · cases hblock
        obtain ⟨rfl, rfl⟩ := mem_here.1 hmem
        exact .run
      · cases hblock
    · cases hblock
      obtain ⟨n, key, r, rfl, hentry, hextra, rfl⟩ := Fields.mem_placedExtra.1 hmem
      exact .property hentry hextra
    · cases hblock
      obtain ⟨m, q, block, rfl, hblock, hmem⟩ := mem_inTurn.1 hmem
      rw [List.getElem?_map, Option.map_eq_some_iff] at hblock
      obtain ⟨rel, hrel, rfl⟩ := hblock
      obtain ⟨n, field, r, rfl, hentry, rfl⟩ | ⟨n, key, r, rfl, hentry, hextra, rfl⟩ :=
        Relationship.mem_placed.1 hmem
      · exact .target hrel hentry
      · exact .link hrel hentry hextra
    · cases hblock
  · intro h
    have hrel {m : Nat} {q : List Nat} {rel : Relationship} (hm : s.relationships[m]? = some rel)
        (hq : (q, i) ∈ rel.placed) : (2 :: m :: q, i) ∈ s.placed := by
      refine mem_inTurn.2 ⟨2, _, _, rfl, rfl, mem_inTurn.2 ⟨m, q, _, rfl, ?_, hq⟩⟩
      rw [List.getElem?_map, hm, Option.map_some]
    cases h with
    | id =>
      exact mem_inTurn.2 ⟨0, _, _, rfl, rfl,
        mem_inTurn.2 ⟨0, _, _, rfl, rfl, mem_here.2 ⟨rfl, rfl⟩⟩⟩
    | run =>
      exact mem_inTurn.2 ⟨0, _, _, rfl, rfl,
        mem_inTurn.2 ⟨1, _, _, rfl, rfl, mem_here.2 ⟨rfl, rfl⟩⟩⟩
    | property hentry hextra =>
      exact mem_inTurn.2 ⟨1, _, _, rfl, rfl,
        Fields.mem_placedExtra.2 ⟨_, _, _, rfl, hentry, hextra, rfl⟩⟩
    | target hm hentry =>
      exact hrel hm (Relationship.mem_placed.2 (.inl ⟨_, _, _, rfl, hentry, rfl⟩))
    | link hm hentry hextra =>
      exact hrel hm (Relationship.mem_placed.2 (.inr ⟨_, _, _, rfl, hentry, hextra, rfl⟩))

theorem sorted_placed (s : NodeSchema) : s.placed.Sorted := by
  refine sorted_inTurn ?_
  simp only [List.forall_mem_cons, List.not_mem_nil, false_imp_iff, implies_true, and_true]
  refine ⟨sorted_inTurn ?_, Fields.sorted_placedExtra _ _, sorted_inTurn ?_⟩
  · simp [sorted_here]
  · intro block hblock
    obtain ⟨rel, -, rfl⟩ := List.mem_map.1 hblock
    exact rel.sorted_placed

end NodeSchema

/-! ## Matchlinks -/

namespace Matchlink

/-- What a matchlink requires: the fields of both matchers, the markers of its
    links together with the run, and the indexed properties. -/
inductive RequiredAt (m : Matchlink) : List Nat → Index → Prop where
  | source {n : Nat} {field : String} {r : Reference} :
      m.source.matcher[n]? = some (field, r) → RequiredAt m [0, n] (.node m.source.label field)
  | target {n : Nat} {field : String} {r : Reference} :
      m.relationship.target.matcher[n]? = some (field, r) →
        RequiredAt m [1, n] (.node m.relationship.target.label field)
  | links : RequiredAt m [2]
      (.relationship m.relationship.label [lastUpdatedKey, scopeLabelKey, scopeIdKey])
  | link {n : Nat} {key : String} {r : Reference} :
      m.relationship.properties[n]? = some (key, r) → r.extraIndex = true →
        RequiredAt m [3, n] (.relationship m.relationship.label [key])

def placed (m : Matchlink) : Placed Index :=
  inTurn
    [m.source.placed, m.relationship.target.placed,
     here (.relationship m.relationship.label [lastUpdatedKey, scopeLabelKey, scopeIdKey]),
     m.relationship.properties.placedExtra fun key => .relationship m.relationship.label [key]]

theorem map_placed (m : Matchlink) : m.placed.map (·.2) = m.lookups := by
  unfold placed lookups
  simp only [map_inTurn, List.flatMap_cons, List.flatMap_nil, map_here, Fields.map_placedExtra,
    Endpoint.map_placed, List.append_nil, List.append_assoc]
  rfl

theorem mem_placed {m : Matchlink} {p : List Nat} {i : Index} :
    (p, i) ∈ m.placed ↔ m.RequiredAt p i := by
  constructor
  · intro h
    obtain ⟨k, q, block, rfl, hblock, hmem⟩ := mem_inTurn.1 h
    rcases k with _ | _ | _ | _ | k
    · cases hblock
      obtain ⟨n, field, r, rfl, hentry, rfl⟩ := Endpoint.mem_placed.1 hmem
      exact .source hentry
    · cases hblock
      obtain ⟨n, field, r, rfl, hentry, rfl⟩ := Endpoint.mem_placed.1 hmem
      exact .target hentry
    · cases hblock
      obtain ⟨rfl, rfl⟩ := mem_here.1 hmem
      exact .links
    · cases hblock
      obtain ⟨n, key, r, rfl, hentry, hextra, rfl⟩ := Fields.mem_placedExtra.1 hmem
      exact .link hentry hextra
    · cases hblock
  · intro h
    cases h with
    | source hentry =>
      exact mem_inTurn.2 ⟨0, _, _, rfl, rfl, Endpoint.mem_placed.2 ⟨_, _, _, rfl, hentry, rfl⟩⟩
    | target hentry =>
      exact mem_inTurn.2 ⟨1, _, _, rfl, rfl, Endpoint.mem_placed.2 ⟨_, _, _, rfl, hentry, rfl⟩⟩
    | links => exact mem_inTurn.2 ⟨2, _, _, rfl, rfl, mem_here.2 ⟨rfl, rfl⟩⟩
    | link hentry hextra =>
      exact mem_inTurn.2 ⟨3, _, _, rfl, rfl,
        Fields.mem_placedExtra.2 ⟨_, _, _, rfl, hentry, hextra, rfl⟩⟩

theorem sorted_placed (m : Matchlink) : m.placed.Sorted := by
  refine sorted_inTurn ?_
  simp [Endpoint.sorted_placed, Fields.sorted_placedExtra, sorted_here]

end Matchlink

end GraphSync
