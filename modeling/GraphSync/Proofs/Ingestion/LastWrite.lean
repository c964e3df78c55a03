import GraphSync.Proofs.Graph.Endpoint
import GraphSync.Proofs.Ingestion.Writing

/-! # Last writes

    Rows write one after another, and may write to the same places.  What stands
    in a place at the end is what the last of them has put there.

    * `IsLast` is the last item of a list of which something holds.  Lists of
      writes are put together (`IsLast.append_iff`), and an item may stand for
      a block of others (`IsLast.of_blocks`).
    * `Assigns.last` is the value that assignments leave: that of the last row
      that binds the element. -/

namespace GraphSync

/-! ## Last items -/

/-- `a` is the last item of a list of which `P` holds. -/
def IsLast {α : Type} (P : α → Prop) (l : List α) (a : α) : Prop :=
  ∃ before after, l = before ++ a :: after ∧ P a ∧ ∀ b ∈ after, ¬ P b

namespace IsLast

variable {α β : Type} {P : α → Prop} {l l₁ l₂ : List α} {a b : α}

theorem holds (h : IsLast P l a) : P a := by
  obtain ⟨_, _, -, ha, -⟩ := h
  exact ha

theorem mem (h : IsLast P l a) : a ∈ l := by
  obtain ⟨before, after, rfl, -, -⟩ := h
  exact List.mem_append_right _ List.mem_cons_self

/-- The last item of a list with one more in front. -/
theorem cons_iff : IsLast P (b :: l) a ↔ IsLast P l a ∨ (a = b ∧ P b ∧ ∀ c ∈ l, ¬ P c) := by
  constructor
  · intro h
    obtain ⟨before, after, heq, ha, hafter⟩ := h
    cases before with
    | nil =>
      obtain ⟨rfl, rfl⟩ := List.cons.inj heq
      exact .inr ⟨rfl, ha, hafter⟩
    | cons c before =>
      obtain ⟨-, rfl⟩ := List.cons.inj heq
      exact .inl ⟨before, after, rfl, ha, hafter⟩
  · intro h
    rcases h with ⟨before, after, rfl, ha, hafter⟩ | ⟨rfl, ha, hafter⟩
    · exact ⟨b :: before, after, rfl, ha, hafter⟩
    · exact ⟨[], l, rfl, ha, hafter⟩

/-- Where `P` holds of some item there is a last one. -/
theorem exists_of_mem (hmem : a ∈ l) (ha : P a) : ∃ b, IsLast P l b := by
  induction l generalizing a with
  | nil => cases hmem
  | cons c rest ih =>
    by_cases hrest : ∃ d ∈ rest, P d
    · obtain ⟨d, hd, hPd⟩ := hrest
      obtain ⟨b, hb⟩ := ih hd hPd
      exact ⟨b, cons_iff.2 (.inl hb)⟩
    · -- no later item will do, so it is the first
      have hnone : ∀ d ∈ rest, ¬ P d := fun d hd hPd => hrest ⟨d, hd, hPd⟩
      have hac : a = c := (List.mem_cons.1 hmem).resolve_right fun hmem => hnone a hmem ha
      exact ⟨c, cons_iff.2 (.inr ⟨rfl, hac ▸ ha, hnone⟩)⟩

theorem append_iff :
    IsLast P (l₁ ++ l₂) a ↔ IsLast P l₂ a ∨ (IsLast P l₁ a ∧ ∀ b ∈ l₂, ¬ P b) := by
  induction l₁ with
  | nil =>
    constructor
    · exact fun h => .inl h
    · intro h
      refine h.resolve_right fun hnil => ?_
      cases hnil.1.mem
  | cons c rest ih =>
    rw [List.cons_append, cons_iff, cons_iff, ih, List.forall_mem_append]
    tauto

/-- Where `P` holds of the item at the end, that is the last one. -/
theorem eq_last (h : IsLast P (l ++ [b]) a) (hb : P b) : a = b := by
  rcases append_iff.1 h with h | ⟨-, hnone⟩
  · exact List.mem_singleton.1 h.mem
  · exact absurd hb (hnone b (List.mem_singleton_self b))

theorem congr {Q : α → Prop} (h : ∀ a ∈ l, P a ↔ Q a) : IsLast P l a ↔ IsLast Q l a := by
  unfold IsLast
  refine exists_congr fun before => exists_congr fun after => and_congr_right fun heq => ?_
  subst heq
  obtain ⟨-, ha, hafter⟩ := by simpa only [List.forall_mem_append, List.forall_mem_cons] using h
  exact and_congr ha (forall₂_congr fun b hb => not_congr (hafter b hb))

/-- Of less, where it holds of the last item. -/
theorem of_imp {Q : α → Prop} (h : IsLast P l a) (ha : Q a) (hPQ : ∀ b, Q b → P b) :
    IsLast Q l a := by
  obtain ⟨before, after, heq, -, hafter⟩ := h
  exact ⟨before, after, heq, ha, fun b hb hQ => hafter b hb (hPQ b hQ)⟩

/-- Each item stands for a block. -/
theorem exists_block {R : α → List β → Prop} {blocks : List (List β)}
    (hblocks : List.Forall₂ R l blocks) {b : β} (hb : b ∈ blocks.flatten) :
    ∃ a ∈ l, ∃ block, R a block ∧ b ∈ block := by
  induction hblocks with
  | nil => cases hb
  | @cons a block rest blocks hR hrest ih =>
    rcases List.mem_append.1 (List.flatten_cons ▸ hb) with hb | hb
    · exact ⟨a, List.mem_cons_self, block, hR, hb⟩
    · obtain ⟨a', ha', block', hR', hb⟩ := ih hb
      exact ⟨a', List.mem_cons_of_mem _ ha', block', hR', hb⟩

/-- When `Q` holds of some item of a block just where `P` holds of what the
    block stands for, the last item leads to the last one of the blocks. -/
theorem of_blocks {R : α → List β → Prop} {Q : β → Prop} {blocks : List (List β)}
    (hblocks : List.Forall₂ R l blocks)
    (hiff : ∀ a block, R a block → ((∃ b ∈ block, Q b) ↔ P a)) (h : IsLast P l a) :
    ∃ block, R a block ∧ ∃ b ∈ block, IsLast Q blocks.flatten b := by
  induction hblocks with
  | nil => cases h.mem
  | @cons c block rest blocks hR hrest ih =>
    rcases cons_iff.1 h with h | ⟨rfl, hP, hnone⟩
    · obtain ⟨block', hR', b, hb, hlast⟩ := ih h
      exact ⟨block', hR', b, hb, append_iff.2 (.inl hlast)⟩
    · obtain ⟨b₀, hb₀, hP₀⟩ := (hiff a block hR).2 hP
      obtain ⟨b, hlast⟩ := exists_of_mem hb₀ hP₀
      refine ⟨block, hR, b, hlast.mem, append_iff.2 (.inr ⟨hlast, ?_⟩)⟩
      -- no later block has an item of which `Q` holds
      intro b' hb' hQ
      obtain ⟨d, hd, block', hR', hmem⟩ := exists_block hrest hb'
      exact hnone d hd ((hiff d block' hR').1 ⟨b', hmem, hQ⟩)

/-- There is one last item. -/
theorem unique (h : IsLast P l a) (h' : IsLast P l b) : a = b := by
  induction l with
  | nil => cases h.mem
  | cons c rest ih =>
    rcases cons_iff.1 h with h | ⟨rfl, hP, hnone⟩
    · rcases cons_iff.1 h' with h' | ⟨-, -, hnone⟩
      · exact ih h h'
      · exact absurd h.holds (hnone a h.mem)
    · rcases cons_iff.1 h' with h' | ⟨rfl, -, -⟩
      · exact absurd h'.holds (hnone b h'.mem)
      · rfl

end IsLast

/-- `a` is the first item of a list of which `P` holds. -/
def IsFirst {α : Type} (P : α → Prop) (l : List α) (a : α) : Prop := IsLast P l.reverse a

namespace IsFirst

variable {α : Type} {P Q : α → Prop} {l l₁ l₂ : List α} {a b : α}

theorem holds (h : IsFirst P l a) : P a := IsLast.holds h

theorem mem (h : IsFirst P l a) : a ∈ l := List.mem_reverse.1 (IsLast.mem h)

theorem append_iff :
    IsFirst P (l₁ ++ l₂) a ↔ IsFirst P l₁ a ∨ (IsFirst P l₂ a ∧ ∀ b ∈ l₁, ¬ P b) := by
  unfold IsFirst
  rw [List.reverse_append, IsLast.append_iff]
  simp only [List.mem_reverse]

theorem congr (h : ∀ a ∈ l, P a ↔ Q a) : IsFirst P l a ↔ IsFirst Q l a :=
  IsLast.congr fun a ha => h a (List.mem_reverse.1 ha)

/-- The first item of a list with one more in front. -/
theorem cons_iff : IsFirst P (b :: l) a ↔ (a = b ∧ P b) ∨ (IsFirst P l a ∧ ¬ P b) := by
  show IsFirst P ([b] ++ l) a ↔ _
  rw [append_iff, List.forall_mem_singleton]
  refine or_congr_left ?_
  show IsLast P [b] a ↔ _
  rw [IsLast.cons_iff]
  constructor
  · intro h
    rcases h with h | ⟨hab, hb, -⟩
    · exact absurd h.mem List.not_mem_nil
    · exact ⟨hab, hb⟩
  · intro h
    exact .inr ⟨h.1, h.2, by simp⟩

theorem unique (h : IsFirst P l a) (h' : IsFirst P l b) : a = b := IsLast.unique h h'

end IsFirst

/-! ## Rows that assign -/

open Cypher Plan

/-- What assignments leave under the key of a field is its value in the last row
    that binds the element. -/
theorem Assigns.last {cx : Context} {v : String} {fields : Fields} {rows out : List Binding}
    {s s' : Store} (h : Assigns cx v fields rows s out s') (hnodup : fields.keys.Nodup)
    {key : String} {r : Reference} (hr : (key, r) ∈ fields) {e : Element} {b : Binding}
    (hlast : IsLast (fun b => b.element? v = some e) rows b) {row : Json}
    (hrow : b rowAlias = some (.value row)) :
    s'.graph.prop e key = r.value cx.params row.member := by
  obtain ⟨before, after, rfl, hb, hafter⟩ := hlast
  obtain ⟨_, s₁, _, -, ⟨_, s₂, out₂, ⟨happly, -⟩, hlater, -⟩, -⟩ := eachRow_append.1 h
  have hlater : Assigns cx v fields after s₂ out₂ s' := hlater
  -- later rows bind other elements
  have hkept : s'.graph.prop e = s₂.graph.prop e := by
    apply hlater.sets.prop_eq
    intro hbound
    obtain ⟨b', hb', he⟩ := hbound
    exact hafter b' hb' he
  rw [hkept]
  refine applyItems_value (Binding.eq_of_element? hb) ?_ happly (.inr ⟨r, hr⟩)
  intro r' hr' g
  have hone : fields.get? key = some r' := (Fields.get?_eq_some_iff hnodup).2 hr'
  rw [(Fields.get?_eq_some_iff hnodup).2 hr, Option.some.injEq] at hone
  subst hone
  have hfield : b.property g rowAlias = row.member := by
    funext field
    simp only [Binding.property, hrow]
  rw [Reference.cell_expr, hfield]

end GraphSync
