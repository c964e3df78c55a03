import GraphSync.Proofs.Graph.Pattern
import GraphSync.Run.Load

/-! # Parameters of a run

    A run has parameters of its own, to which a caller may add more
    (`Parameters.ofRun`), and a query is sent only with all the parameters
    that it reads (`Parameters.require_eq_ok`). -/

namespace GraphSync

open Cypher

/-! ## Parameters of a run -/

theorem Parameters.value_insert_self (p : Parameters) (name : String) (v : Json) :
    Parameters.value (p.insert name v) name = v := by
  unfold value
  rw [Dictionary.find?_insert_self]
  rfl

theorem Parameters.value_insert_of_ne (p : Parameters) {name other : String} (h : other ≠ name)
    (v : Json) : Parameters.value (p.insert name v) other = p.value other := by
  unfold value
  rw [Dictionary.find?_insert_of_ne _ h]

theorem Dictionary.find?_insertMany_of_forall_ne {α : Type} {key : String}
    {pairs : List (String × α)} (h : ∀ pair ∈ pairs, pair.1 ≠ key) (d : Dictionary α) :
    (d.insertMany pairs).find? key = d.find? key := by
  induction pairs generalizing d with
  | nil => rfl
  | cons pair rest ih =>
    obtain ⟨hpair, hrest⟩ := List.forall_mem_cons.1 h
    have hlater := ih hrest (d.insert pair.1 pair.2)
    unfold insertMany at hlater ⊢
    rw [List.foldl_cons, hlater]
    exact d.find?_insert_of_ne (Ne.symm hpair) pair.2

/-- Names that a caller may add to the parameters of a run. -/
def AreExtras (extras : List (String × Json)) : Prop :=
  ∀ x ∈ extras, x.1 ≠ lastUpdatedKey ∧ x.1 ≠ updateTagParam

/-- The parameters of a run with more of them. -/
def Parameters.ofRun (tag : Int64) (extras : List (String × Json)) : Parameters :=
  (Parameters.forRun tag).insertMany extras

/-- The tag of a run is there under two names. -/
theorem Parameters.value_ofRun {tag : Int64} {extras : List (String × Json)} (h : AreExtras extras)
    {name : String} (hname : name = lastUpdatedKey ∨ name = updateTagParam) :
    (Parameters.ofRun tag extras).value name = .ofInt64 tag := by
  have hrun : (Parameters.forRun tag).find? name = some (.ofInt64 tag) := by
    unfold Parameters.forRun
    rcases hname with rfl | rfl
    · rw [Dictionary.find?_insert_of_ne _ (by decide), Dictionary.find?_insert_self]
    · rw [Dictionary.find?_insert_self]
  have hextras : ∀ x ∈ extras, x.1 ≠ name := by
    intro x hx
    rcases hname with rfl | rfl
    · exact (h x hx).1
    · exact (h x hx).2
  unfold Parameters.value Parameters.ofRun
  rw [Dictionary.find?_insertMany_of_forall_ne hextras, hrun]
  rfl

/-! ## Parameters that a query reads -/

theorem Plan.mem_callerParameters {q : Query} {name : String} :
    name ∈ Plan.callerParameters q ↔
      name ∈ clauseParams q ∧ name ≠ rowsParam ∧ name ≠ limitParam := by
  simp [Plan.callerParameters, Query.parameters, mem_sortedNames]

theorem Parameters.require_eq_ok {p : Parameters} (label : String) {names : List String} :
    p.require label names = .ok () ↔ ∀ name ∈ names, p.contains name = true := by
  unfold Parameters.require
  cases hmissing : p.firstMissing names with
  | none =>
    rw [Parameters.firstMissing, List.find?_eq_none] at hmissing
    simpa using hmissing
  | some name =>
    have hname := List.find?_some hmissing
    have hmem := List.mem_of_find?_eq_some hmissing
    simp only [reduceCtorEq, false_iff]
    intro h
    rw [h name hmem] at hname
    cases hname

end GraphSync
