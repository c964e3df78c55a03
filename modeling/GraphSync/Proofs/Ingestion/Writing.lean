import GraphSync.Plan.Ingestion
import GraphSync.Proofs.Graph.Growth
import GraphSync.Proofs.Schema.Accepted

/-! # What assignments write

    An ingestion merges an element for each row, bound to some variable, and
    then assigns a list of fields to what the variable is bound to.

    * `clausesExec_append`, `eachRow_append` and the lemmas next to it take a
      query apart, into its clauses and into the rows of each of them.
    * `applyItems_sets` is the frame of assignments, and `applyItems_value` what
      they leave under a key.
    * `Assigns` is the assignments of all rows. -/

namespace GraphSync

open Plan

namespace Cypher

variable {cx : Context} {v : String} {b : Binding} {s s' : Store}

/-! ## Clauses one after another -/

theorem clausesExec_append {cs ds : List Clause} {p p' : State} :
    clausesExec cx (cs ++ ds) p p' ↔
      ∃ m, clausesExec cx cs p m ∧ clausesExec cx ds m p' := by
  induction cs generalizing p with
  | nil => simp [clausesExec]
  | cons c cs ih =>
    simp only [List.cons_append, clausesExec, ih]
    constructor
    · intro h
      obtain ⟨m₁, h₁, m₂, h₂, h₃⟩ := h
      exact ⟨m₂, ⟨m₁, h₁, h₂⟩, h₃⟩
    · intro h
      obtain ⟨m₂, ⟨m₁, h₁, h₂⟩, h₃⟩ := h
      exact ⟨m₁, h₁, m₂, h₂, h₃⟩

/-! ## Rows one after another -/

/-- An element that a variable is bound to in some row. -/
def BoundIn (v : String) (rows : List Binding) (e : Element) : Prop :=
  ∃ b ∈ rows, b.element? v = some e

theorem boundIn_append {v : String} {rows rows' : List Binding} {e : Element} :
    BoundIn v (rows ++ rows') e ↔ BoundIn v rows e ∨ BoundIn v rows' e := by
  simp only [BoundIn, List.mem_append, or_and_right, exists_or]

/-- What holds of each row that a step leaves holds of all of them. -/
theorem eachRow_forall {P : Binding → Prop}
    {step : Binding → Store → List Binding → Store → Prop} {rows out : List Binding}
    (h : EachRow step rows s out s')
    (hstep : ∀ b ∈ rows, ∀ s out s', step b s out s' → ∀ b' ∈ out, P b') : ∀ b' ∈ out, P b' := by
  induction rows generalizing s out with
  | nil =>
    obtain ⟨rfl, -⟩ := h
    simp
  | cons b rest ih =>
    obtain ⟨out₁, s₁, out₂, hfirst, hrest, rfl⟩ := h
    intro b' hb'
    rcases List.mem_append.1 hb' with hb' | hb'
    · exact hstep b List.mem_cons_self s out₁ s₁ hfirst b' hb'
    · exact ih hrest (fun b hb => hstep b (List.mem_cons_of_mem _ hb)) b' hb'

/-- A step that leaves each row as it is leaves all rows. -/
theorem eachRow_rows {step : Binding → Store → List Binding → Store → Prop}
    {rows out : List Binding} (h : EachRow step rows s out s')
    (hstep : ∀ b s out s', step b s out s' → out = [b]) : out = rows := by
  induction rows generalizing s out with
  | nil => exact h.1
  | cons b rest ih =>
    obtain ⟨out₁, s₁, out₂, hfirst, hrest, rfl⟩ := h
    rw [hstep b s out₁ s₁ hfirst, ih hrest]
    rfl

theorem eachRow_append {step : Binding → Store → List Binding → Store → Prop}
    {rows₁ rows₂ out : List Binding} {s s' : Store} :
    EachRow step (rows₁ ++ rows₂) s out s' ↔
      ∃ out₁ s₁ out₂, EachRow step rows₁ s out₁ s₁ ∧ EachRow step rows₂ s₁ out₂ s' ∧
        out = out₁ ++ out₂ := by
  induction rows₁ generalizing s out with
  | nil => simp [EachRow]
  | cons b rest ih =>
    simp only [List.cons_append, EachRow, ih]
    constructor
    · intro h
      obtain ⟨out₁, s₁, _, hfirst, ⟨out₂, s₂, out₃, hrest, hlater, rfl⟩, rfl⟩ := h
      exact ⟨out₁ ++ out₂, s₂, out₃, ⟨out₁, s₁, out₂, hfirst, hrest, rfl⟩, hlater,
        (List.append_assoc _ _ _).symm⟩
    · intro h
      obtain ⟨_, s₂, out₃, ⟨out₁, s₁, out₂, hfirst, hrest, rfl⟩, hlater, rfl⟩ := h
      exact ⟨out₁, s₁, out₂ ++ out₃, hfirst, ⟨out₂, s₂, out₃, hrest, hlater, rfl⟩,
        List.append_assoc _ _ _⟩

/-- The rows that a `WITH` without a limit leaves. -/
theorem mem_rows_withVars {vars : List String} {conditions : List Condition} {p p' : State}
    (h : (Clause.withVars vars conditions none).Exec cx p p') {b' : Binding} (hb : b' ∈ p'.rows) :
    (∃ b ∈ p.rows, b' = b.only vars) ∧
      ∀ c ∈ conditions, c.holds cx p.store.graph b' = true := by
  obtain ⟨-, hrows⟩ := h
  rw [show p'.rows = _ from hrows, List.mem_filter, List.mem_map, List.all_eq_true] at hb
  obtain ⟨⟨b, hb, rfl⟩, hc⟩ := hb
  exact ⟨⟨b, hb, rfl⟩, hc⟩

/-! ## Assignments -/

/-- An assignment to a property changes one property of one element, or
    nothing when there is nothing to assign to. -/
theorem apply_property {key : String} {e : Expr}
    (h : (SetItem.property v key e).apply cx b s = some s') :
    (∃ x w, b v = some (.element x) ∧ e.cell cx s.graph b = .value w ∧
        s' = { graph := s.graph.setProp x key w, written := s.written ++ [x] }) ∨
      (b v = some (.value .null) ∧ s' = s) := by
  simp only [SetItem.apply] at h
  split at h
  · next x w hx hw =>
    split at h
    · cases h
      exact .inl ⟨x, w, hx, hw, rfl⟩
    · cases h
  · next hnull =>
    cases h
    exact .inr ⟨hnull, rfl⟩
  · cases h

/-- Assignments to one variable change no more than the properties under their
    keys of what it is bound to, and write to nothing else. -/
theorem applyItems_sets {items : List SetItem} {keys : List String}
    (hitems : ∀ item ∈ items, ∃ key ∈ keys, ∃ e, item = .property v key e)
    (h : applyItems cx b items s = some s') :
    s.graph.Sets (fun e => b.element? v = some e) keys s'.graph ∧
      ∀ e ∈ s'.written, e ∈ s.written ∨ b.element? v = some e := by
  induction items generalizing s with
  | nil =>
    cases h
    exact ⟨Graph.Sets.refl _ _ _, fun _ he => .inl he⟩
  | cons item rest ih =>
    rw [applyItems, Option.bind_eq_some_iff] at h
    obtain ⟨s₁, hfirst, hrest⟩ := h
    obtain ⟨⟨key, hkey, e, rfl⟩, hlater⟩ := List.forall_mem_cons.1 hitems
    obtain ⟨hsets, hwritten⟩ := ih hlater hrest
    rcases apply_property hfirst with ⟨x, w, hx, -, rfl⟩ | ⟨-, rfl⟩
    · have hset := s.graph.setProp_sets x key w
      have hbound : b.element? v = some x := by simp [Binding.element?, hx, Cell.element?]
      constructor
      · refine Graph.Sets.trans { hset with prop := ?_ } hsets
        intro e k
        refine (hset.prop e k).imp_right fun hset => ?_
        obtain ⟨rfl, hk⟩ := hset
        exact ⟨hbound, List.mem_singleton.1 hk ▸ hkey⟩
      · intro e he
        rcases hwritten e he with he | he
        · rcases List.mem_append.1 he with he | he
          · exact .inl he
          · exact .inr (List.mem_singleton.1 he ▸ hbound)
        · exact .inr he
    · exact ⟨hsets, hwritten⟩

/-- The value that is left under a key is the one that all fields with the key
    give it, when it had this value before or there is such a field. -/
theorem applyItems_value {fields : Fields} {key : String} {x : Element} {w : Json}
    (hx : b v = some (.element x))
    (hvalue : ∀ r, (key, r) ∈ fields → ∀ g, r.expr.cell cx g b = .value w)
    (h : applyItems cx b (setFields v fields) s = some s')
    (hw : s.graph.prop x key = w ∨ ∃ r, (key, r) ∈ fields) : s'.graph.prop x key = w := by
  -- on the fields, since every assignment changes the store that the rest starts from
  induction fields generalizing s with
  | nil =>
    cases h
    rcases hw with hw | ⟨r, hr⟩
    · exact hw
    · cases hr
  | cons entry rest ih =>
    obtain ⟨k, r⟩ := entry
    rw [setFields, List.map_cons, applyItems, Option.bind_eq_some_iff] at h
    obtain ⟨s₁, hfirst, hrest⟩ := h
    obtain ⟨x', w', hx', hw', rfl⟩ | ⟨hnull, -⟩ := apply_property hfirst
    · obtain rfl : x = x' := by
        rw [hx] at hx'
        cases hx'
        rfl
      apply ih (fun r' hr' => hvalue r' (List.mem_cons_of_mem _ hr')) hrest
      by_cases hk : k = key
      · left
        subst hk
        have hcell := hvalue r List.mem_cons_self s.graph
        rw [hw', Cell.value.injEq] at hcell
        simp [Graph.setProp, hcell]
      · -- another key leaves the value, or the field that will give it, to the rest
        have hne : ¬(key = k) := fun h => hk h.symm
        rcases hw with hw | ⟨r', hr'⟩
        · left
          simp [Graph.setProp, hne, hw]
        · right
          rcases List.mem_cons.1 hr' with hr' | hr'
          · cases hr'
            exact absurd rfl hk
          · exact ⟨r', hr'⟩
    · rw [hx] at hnull
      cases hnull

end Cypher

/-! ## Assignments of all rows -/

open Cypher

/-- The assignments of some fields, to what each row binds a variable to. -/
def Assigns (cx : Context) (v : String) (fields : Fields) (rows : List Binding) (s : Store)
    (out : List Binding) (s' : Store) : Prop :=
  EachRow (fun b s out s' => applyItems cx b (setFields v fields) s = some s' ∧ out = [b])
    rows s out s'

theorem Assigns.rows {cx : Context} {v : String} {fields : Fields} {rows out : List Binding}
    {s s' : Store} (h : Assigns cx v fields rows s out s') : out = rows :=
  eachRow_rows h fun _ _ _ _ hstep => hstep.2

section

variable {cx : Context} {v : String} {fields : Fields} {rows out : List Binding} {s s' : Store}

/-- Assignments change no more than the properties under the keys of their
    fields, and write to nothing but what the rows bind. -/
theorem Assigns.sets_and_writes (h : Assigns cx v fields rows s out s') :
    s.graph.Sets (BoundIn v rows) fields.keys s'.graph ∧
      ∀ e ∈ s'.written, e ∈ s.written ∨ BoundIn v rows e := by
  unfold Assigns at h
  induction rows generalizing s out with
  | nil =>
    obtain ⟨-, rfl⟩ := h
    exact ⟨Graph.Sets.refl _ _ _, fun _ he => .inl he⟩
  | cons b rest ih =>
    obtain ⟨out₁, s₁, out₂, ⟨happly, -⟩, hrest, -⟩ := h
    have hitems : ∀ item ∈ setFields v fields, ∃ key ∈ fields.keys, ∃ e,
        item = .property v key e := by
      intro item hitem
      obtain ⟨entry, hentry, rfl⟩ := List.mem_map.1 hitem
      exact ⟨entry.1, List.mem_map_of_mem hentry, entry.2.expr, rfl⟩
    obtain ⟨hfirst, hwritten⟩ := applyItems_sets hitems happly
    obtain ⟨hlater, hwritten'⟩ := ih hrest
    have hhead {e : Element} (he : b.element? v = some e) : BoundIn v (b :: rest) e :=
      ⟨b, List.mem_cons_self, he⟩
    have htail {e : Element} : BoundIn v rest e → BoundIn v (b :: rest) e := by
      rintro ⟨b', hb', he⟩
      exact ⟨b', List.mem_cons_of_mem _ hb', he⟩
    constructor
    · exact (hfirst.mono fun _ => hhead).trans (hlater.mono fun _ => htail)
    · intro e he
      rcases hwritten' e he with he | he
      · exact (hwritten e he).imp_right hhead
      · exact .inr (htail he)

theorem Assigns.sets (h : Assigns cx v fields rows s out s') :
    s.graph.Sets (BoundIn v rows) fields.keys s'.graph :=
  h.sets_and_writes.1

theorem Assigns.written (h : Assigns cx v fields rows s out s') :
    ∀ e ∈ s'.written, e ∈ s.written ∨ BoundIn v rows e :=
  h.sets_and_writes.2

end

end GraphSync
