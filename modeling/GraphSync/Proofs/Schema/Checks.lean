import GraphSync.Proofs.Schema.Accepted

/-! # Checks in order

    A builder runs checks one after another and fails with the error of the
    first that complains.  Each check is described by its complaint, a
    condition on the values it is given and the error that it reports there.
    A chain of checks is then described by the list of complaints, from which
    it is read both when the chain passes and with which error it fails. -/

namespace GraphSync

/-! ## The first entry of a list -/

/-- `FirstWith P l a`: `a` is the first entry of `l` with `P`. -/
def FirstWith {α : Type} (P : α → Prop) (l : List α) (a : α) : Prop :=
  ∃ before after, l = before ++ a :: after ∧ P a ∧ ∀ b ∈ before, ¬P b

section FirstWith

variable {α : Type} {P : α → Prop} {l : List α} {a b : α}

theorem not_firstWith_nil : ¬FirstWith P [] a := by
  rintro ⟨before, after, hl, -⟩
  cases before <;> cases hl

theorem firstWith_cons : FirstWith P (b :: l) a ↔ P b ∧ a = b ∨ ¬P b ∧ FirstWith P l a := by
  constructor
  · rintro ⟨before, after, hl, ha, hbefore⟩
    cases before with
    | nil =>
      cases hl
      exact .inl ⟨ha, rfl⟩
    | cons c before =>
      cases hl
      refine .inr ⟨hbefore b List.mem_cons_self, before, after, rfl, ha, fun c hc => ?_⟩
      exact hbefore c (List.mem_cons_of_mem _ hc)
  · rintro (⟨hb, rfl⟩ | ⟨hb, before, after, rfl, ha, hbefore⟩)
    · exact ⟨[], l, rfl, hb, fun c hc => absurd hc List.not_mem_nil⟩
    · exact ⟨b :: before, after, rfl, ha, List.forall_mem_cons.2 ⟨hb, hbefore⟩⟩

theorem exists_firstWith : (∃ a, FirstWith P l a) ↔ ∃ a ∈ l, P a := by
  induction l with
  | nil => simp [not_firstWith_nil]
  | cons b l ih =>
    by_cases hb : P b
    · simp [firstWith_cons, hb]
    · simp [firstWith_cons, hb, ih]

theorem forall_not_firstWith : (∀ a, ¬FirstWith P l a) ↔ ∀ a ∈ l, ¬P a := by
  rw [← not_exists, exists_firstWith]
  push Not
  rfl

end FirstWith

/-! ## Complaints -/

/-- What a check complains about: the errors that it fails with. -/
abbrev Complaint := SchemaError → Prop

/-- `FirstOf complaints e`: `e` is reported by the first complaint that there
    is a reason for. -/
def FirstOf (complaints : List Complaint) (e : SchemaError) : Prop :=
  ∃ c, FirstWith (fun c => ∃ e', c e') complaints c ∧ c e

theorem not_firstOf_nil {e : SchemaError} : ¬FirstOf [] e := by
  rintro ⟨c, hc, -⟩
  exact not_firstWith_nil hc

theorem firstOf_cons {c : Complaint} {rest : List Complaint} {e : SchemaError} :
    FirstOf (c :: rest) e ↔ c e ∨ (∀ e', ¬c e') ∧ FirstOf rest e := by
  unfold FirstOf
  constructor
  · rintro ⟨c', hfirst, he⟩
    rcases firstWith_cons.1 hfirst with ⟨-, rfl⟩ | ⟨hnone, hfirst⟩
    · exact .inl he
    · exact .inr ⟨not_exists.1 hnone, c', hfirst, he⟩
  · rintro (he | ⟨hnone, c', hfirst, he⟩)
    · exact ⟨c, firstWith_cons.2 (.inl ⟨⟨e, he⟩, rfl⟩), he⟩
    · exact ⟨c', firstWith_cons.2 (.inr ⟨not_exists.2 hnone, hfirst⟩), he⟩

/-- A complaint further on is made if there is no reason for those before it. -/
theorem firstOf_append {before rest : List Complaint} {e : SchemaError} :
    FirstOf (before ++ rest) e ↔
      FirstOf before e ∨ (∀ c ∈ before, ∀ e', ¬c e') ∧ FirstOf rest e := by
  induction before with
  | nil => simp [not_firstOf_nil]
  | cons c before ih =>
    rw [List.cons_append, firstOf_cons, firstOf_cons, ih, List.forall_mem_cons]
    tauto

theorem exists_firstOf {complaints : List Complaint} :
    (∃ e, FirstOf complaints e) ↔ ∃ c ∈ complaints, ∃ e, c e := by
  rw [← exists_firstWith (P := fun c : Complaint => ∃ e, c e)]
  constructor
  · rintro ⟨e, c, hfirst, -⟩
    exact ⟨c, hfirst⟩
  · rintro ⟨c, hfirst⟩
    obtain ⟨-, -, -, ⟨e, he⟩, -⟩ := id hfirst
    exact ⟨e, c, hfirst, he⟩

theorem forall_not_complaint {p : Prop} {e' : SchemaError} : (∀ e, ¬(p ∧ e = e')) ↔ ¬p :=
  ⟨fun h hp => h e' ⟨hp, rfl⟩, fun hp _ h => hp h.1⟩

/-! ## Chains of checks -/

/-- `Fails x c`: a computation fails with the errors of a complaint. -/
def Fails {α : Type} (x : Except SchemaError α) (c : Complaint) : Prop :=
  ∀ e, x = .error e ↔ c e

section Fails

variable {α β : Type} {x : Except SchemaError α} {f : α → Except SchemaError β} {c : Complaint}
  {rest : List Complaint}

theorem Fails.congr {c' : Complaint} (hx : Fails x c) (h : ∀ e, c e ↔ c' e) : Fails x c' :=
  fun e => (hx e).trans (h e)

theorem fails_pure {a : α} : Fails (pure a) (FirstOf []) := by
  intro e
  exact ⟨fun h => (by cases h), fun h => absurd h not_firstOf_nil⟩

/-- A check in front of a chain. -/
theorem Fails.bind (hx : Fails x c) (hf : ∀ a, x = .ok a → Fails (f a) (FirstOf rest)) :
    Fails (x >>= f) (FirstOf (c :: rest)) := by
  intro e
  rw [firstOf_cons]
  cases hres : x with
  | error e' =>
    have hc : c e ↔ e' = e := by
      rw [← hx e, hres, Except.error.injEq]
    have hstop : (Except.error e' >>= f : Except SchemaError β) = .error e' := rfl
    rw [hstop, Except.error.injEq, ← hc]
    exact ⟨.inl, fun h => h.resolve_right fun hrest => hrest.1 e' ((hx e').1 hres)⟩
  | ok a =>
    have hnone : ∀ e', ¬c e' := by
      intro e' hc
      rw [(hx e').2 hc] at hres
      cases hres
    have hgo : (Except.ok a >>= f : Except SchemaError β) = f a := rfl
    rw [hgo, hf a hres e]
    exact ⟨fun h => .inr ⟨hnone, h⟩, fun h => (h.resolve_left (hnone e)).2⟩

/-- A check alone is a chain. -/
theorem Fails.alone (hx : Fails x c) : Fails x (FirstOf [c]) := by
  refine hx.congr fun e => ?_
  rw [firstOf_cons]
  exact ⟨.inl, fun h => h.resolve_right fun hrest => not_firstOf_nil hrest.2⟩

/-- A chain in front of another. -/
theorem Fails.append {before : List Complaint} (hx : Fails x (FirstOf before))
    (hf : ∀ a, x = .ok a → Fails (f a) (FirstOf rest)) :
    Fails (x >>= f) (FirstOf (before ++ rest)) := by
  intro e
  rw [firstOf_append, Fails.bind hx hf e, firstOf_cons, ← not_exists, exists_firstOf]
  push Not
  rfl

/-- There is no reason for the complaint in front. -/
theorem Fails.skip (hx : Fails x (FirstOf rest)) (hnone : ∀ e, ¬c e) :
    Fails x (FirstOf (c :: rest)) := by
  intro e
  rw [firstOf_cons, hx e]
  exact ⟨fun h => .inr ⟨hnone, h⟩, fun h => (h.resolve_left (hnone e)).2⟩

theorem fails_error {e' : SchemaError} (hc : ∀ e, c e ↔ e = e') :
    Fails (.error e' : Except SchemaError α) (FirstOf (c :: rest)) := by
  intro e
  rw [firstOf_cons, Except.error.injEq, hc e]
  constructor
  · rintro rfl
    exact .inl rfl
  · rintro (rfl | ⟨hnone, -⟩)
    · rfl
    · exact absurd ((hc e').2 rfl) (hnone e')

/-- A test in front of a chain. -/
theorem Fails.ite {p q : Prop} [Decidable p] {e' : SchemaError} (hpq : p ↔ q)
    (hx : Fails x (FirstOf rest)) :
    Fails (if p then .error e' else x) (FirstOf ((fun e => q ∧ e = e') :: rest)) := by
  by_cases hp : p
  · rw [if_pos hp]
    exact fails_error fun e => and_iff_right (hpq.1 hp)
  · rw [if_neg hp]
    exact hx.skip fun e h => hp (hpq.2 h.1)

/-- What is done with the result of a chain does not make it fail. -/
theorem Fails.map (hx : Fails x c) (g : α → β) : Fails (x >>= fun a => pure (g a)) c := by
  intro e
  rw [← hx e]
  cases x with
  | error e' => exact ⟨fun h => (by cases h; rfl), fun h => (by cases h; rfl)⟩
  | ok a => exact ⟨fun h => (by cases h), fun h => (by cases h)⟩

/-- A chain passes if there is no reason for any of the complaints. -/
theorem Fails.exists_ok (hx : Fails x (FirstOf rest)) :
    (∃ a, x = .ok a) ↔ ∀ c ∈ rest, ∀ e, ¬c e := by
  have hnone : (∀ c ∈ rest, ∀ e, ¬c e) ↔ ¬∃ e, FirstOf rest e := by
    rw [exists_firstOf]
    push Not
    rfl
  rw [hnone]
  cases hres : x with
  | error e =>
    exact ⟨fun ⟨_, h⟩ => (by cases h), fun h => absurd ⟨e, (hx e).1 hres⟩ h⟩
  | ok a =>
    refine ⟨fun _ => ?_, fun _ => ⟨a, rfl⟩⟩
    rintro ⟨e, he⟩
    rw [(hx e).2 he] at hres
    cases hres

end Fails

/-! ## The checks of names and fields -/

theorem NameKind.fails_check (kind : NameKind) (name : String) :
    Fails (kind.check name) fun e => name = "" ∧ e = .emptyName kind := by
  intro e
  unfold check
  split
  · next h =>
    have hname : name = "" := by simpa using h
    exact ⟨fun he => (by cases he; exact ⟨hname, rfl⟩), fun he => (by rw [he.2])⟩
  · next h =>
    have hname : name ≠ "" := by simpa using h
    exact ⟨fun he => (by cases he), fun he => absurd he.1 hname⟩

namespace Fields

variable {fields : Fields} {owner : Owner}

theorem fails_require (fields : Fields) (owner : Owner) (key : String) :
    Fails (fields.require owner key) fun e =>
      key ∉ fields.keys ∧ e = .missingProperty owner key := by
  intro e
  unfold require
  rw [← has_iff]
  split
  · next h => exact ⟨fun he => (by cases he), fun he => absurd h he.1⟩
  · next h => exact ⟨fun he => (by cases he; exact ⟨h, rfl⟩), fun he => (by rw [he.2])⟩

/-- The complaint about the first key that is empty or repeats an earlier
    one. -/
def KeyComplaint (fields : Fields) (owner : Owner) : Complaint := fun e =>
  ∃ (before : Fields) (key : String) (r : Reference) (after : Fields),
    fields = before ++ (key, r) :: after ∧
    "" ∉ before.keys ∧ before.keys.Nodup ∧
    (key = "" ∧ e = .emptyName .property ∨
      key ∈ before.keys ∧ e = .duplicateProperty owner key)

/-- The same complaint, where keys have been seen before the fields. -/
def KeyComplaintAfter (fields : Fields) (owner : Owner) (seen : List String) : Complaint := fun e =>
  ∃ (before : Fields) (key : String) (r : Reference) (after : Fields),
    fields = before ++ (key, r) :: after ∧
    "" ∉ before.keys ∧ (∀ k ∈ before.keys, k ∉ seen) ∧ before.keys.Nodup ∧
    (key = "" ∧ e = .emptyName .property ∨
      key ≠ "" ∧ (key ∈ before.keys ∨ key ∈ seen) ∧ e = .duplicateProperty owner key)

theorem keyComplaintAfter_cons {key : String} {r : Reference} {seen : List String}
    {e : SchemaError} :
    KeyComplaintAfter ((key, r) :: fields) owner seen e ↔
      key = "" ∧ e = .emptyName .property ∨
      key ≠ "" ∧ key ∈ seen ∧ e = .duplicateProperty owner key ∨
      key ≠ "" ∧ key ∉ seen ∧ KeyComplaintAfter fields owner (key :: seen) e := by
  constructor
  · rintro ⟨before, key', r', after, hsplit, hempty, hseen, hnodup, he⟩
    cases before with
    | nil =>
      cases hsplit
      simp only [keys, List.map_nil, List.not_mem_nil, false_or] at he
      tauto
    | cons entry before =>
      cases hsplit
      simp only [keys, List.map_cons, List.mem_cons, not_or, List.nodup_cons]
        at hempty hseen hnodup he
      refine .inr (.inr ⟨fun h => hempty.1 h.symm, hseen key (.inl rfl), before, key', r', after,
        rfl, hempty.2, fun k hk => ?_, hnodup.2, ?_⟩)
      · rw [List.mem_cons, not_or]
        refine ⟨?_, hseen k (.inr hk)⟩
        rintro rfl
        exact hnodup.1 hk
      · rw [List.mem_cons]
        unfold keys
        tauto
  · rintro (⟨hkey, he⟩ | ⟨hkey, hmem, he⟩ | ⟨hkey, hfresh, before, key', r', after, rfl, hempty,
      hseen, hnodup, he⟩)
    · exact ⟨[], key, r, fields, rfl, by simp [keys], by simp [keys], by simp [keys],
        .inl ⟨hkey, he⟩⟩
    · exact ⟨[], key, r, fields, rfl, by simp [keys], by simp [keys], by simp [keys],
        .inr ⟨hkey, .inr hmem, he⟩⟩
    · have hnot : key ∉ before.keys := fun h => hseen key h List.mem_cons_self
      refine ⟨(key, r) :: before, key', r', after, rfl, ?_, ?_,
        List.nodup_cons.2 ⟨hnot, hnodup⟩, ?_⟩
      · exact fun h => (List.mem_cons.1 h).elim (fun h => hkey h.symm) hempty
      · refine List.forall_mem_cons.2 ⟨hfresh, fun k hk hmem => ?_⟩
        exact hseen k hk (List.mem_cons_of_mem _ hmem)
      · simp only [keys, List.map_cons, List.mem_cons] at he ⊢
        tauto

theorem fails_checkKeysAfter (fields : Fields) (owner : Owner) (seen : List String) :
    Fails (fields.checkKeysAfter owner seen) (fields.KeyComplaintAfter owner seen) := by
  induction fields generalizing seen with
  | nil =>
    intro e
    refine ⟨fun h => (by cases h), ?_⟩
    rintro ⟨before, key, r, after, hsplit, -⟩
    cases before <;> cases hsplit
  | cons entry rest ih =>
    obtain ⟨key, r⟩ := entry
    intro e
    rw [keyComplaintAfter_cons, checkKeysAfter, ← ih (key :: seen) e]
    by_cases hkey : key = ""
    · rw [if_pos (by simpa using hkey), Except.error.injEq, eq_comm]
      tauto
    rw [if_neg (by simpa using hkey)]
    by_cases hseen : key ∈ seen
    · rw [if_pos hseen, Except.error.injEq, eq_comm]
      tauto
    · rw [if_neg hseen]
      tauto

theorem fails_checkKeys (fields : Fields) (owner : Owner) :
    Fails (fields.checkKeys owner) (fields.KeyComplaint owner) := by
  intro e
  unfold checkKeys
  rw [fails_checkKeysAfter fields owner [] e]
  refine exists_congr fun before => exists_congr fun key => exists_congr fun r =>
    exists_congr fun after => and_congr_right fun _ => and_congr_right fun hempty => ?_
  have hne : key ∈ before.keys → key ≠ "" := by
    rintro hmem rfl
    exact hempty hmem
  simp only [List.not_mem_nil, not_false_eq_true, implies_true, true_and, or_false]
  tauto

/-- There is no reason to complain about keys that are neither empty nor
    repeated. -/
theorem forall_not_keyComplaint :
    (∀ e, ¬fields.KeyComplaint owner e) ↔ (∀ key ∈ fields.keys, key ≠ "") ∧ fields.keys.Nodup := by
  constructor
  · intro hnone
    cases hres : fields.checkKeys owner with
    | error e => exact absurd ((fails_checkKeys fields owner e).1 hres) (hnone e)
    | ok u =>
      obtain ⟨hnodup, hempty⟩ := checkKeys_ok hres
      refine ⟨?_, hnodup⟩
      rintro key hkey rfl
      exact hempty hkey
  · rintro ⟨hne, hall⟩ e ⟨before, key, r, after, rfl, hempty, hnodup, hkey⟩
    simp only [keys, List.map_append, List.map_cons] at hne hall
    rcases hkey with ⟨rfl, -⟩ | ⟨hmem, -⟩
    · exact hne "" (by simp) rfl
    · exact List.disjoint_of_nodup_append hall hmem List.mem_cons_self

end Fields

end GraphSync
