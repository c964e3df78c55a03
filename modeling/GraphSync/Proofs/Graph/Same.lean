import GraphSync.Proofs.Graph.Value

/-! # Equal values

    What queries take for equal is symmetric and transitive, across kinds of
    numbers too, and every value that a property can hold is equal to
    itself. -/

namespace GraphSync.Json

/-! ## Outcomes -/

theorem both_eq_true {a b : Option Bool} :
    both a b = some true ↔ a = some true ∧ b = some true := by
  rcases a with _ | _ | _ <;> rcases b with _ | _ | _ <;> simp [both]

/-! ## Numbers -/

theorem unitsPerOne_ne_zero : (Double.unitsPerOne : Int) ≠ 0 := by
  unfold Double.unitsPerOne
  generalize 1074 = k
  exact Int.natCast_ne_zero.2 (Nat.ne_of_gt (Nat.pow_pos Nat.zero_lt_two))

/-- A number as a whole number of least positive doubles. -/
def units? : Json → Option Int
  | .integer n => some (n.val * Double.unitsPerOne)
  | .double x => some x.signedUnits
  | _ => none

/-- What is equal to a number is the same number, of whichever kind. -/
theorem same_number {v w : Json} {a : Int} (hv : v.units? = some a) :
    v.same w = some true ↔ w.units? = some a := by
  cases v with
  | integer m =>
    rw [units?, Option.some.injEq] at hv
    subst hv
    cases w with
    | integer n =>
      simp only [same, units?, Option.some.injEq, beq_iff_eq]
      constructor
      · intro h
        rw [h]
      · intro h
        exact (Int.eq_of_mul_eq_mul_right unitsPerOne_ne_zero h).symm
    | double y =>
      simp only [same, units?, Option.some.injEq, beq_iff_eq]
      exact eq_comm
    | _ => simp only [same, units?, reduceCtorEq, Option.some.injEq]
  | double x =>
    rw [units?, Option.some.injEq] at hv
    subst hv
    cases w with
    | integer n | double y =>
      simp only [same, units?, Option.some.injEq, beq_iff_eq]
      exact eq_comm
    | _ => simp only [same, units?, reduceCtorEq, Option.some.injEq]
  | _ => cases hv

/-! ## Symmetry -/

mutual

theorem same_symm : ∀ {v w : Json}, v.same w = some true → w.same v = some true
  | .null, w, h => by simp at h
  | .bool a, w, h => by
    cases w <;> simp_all [same]
  | .integer _, _, h | .double _, _, h => (same_number ((same_number rfl).1 h)).2 rfl
  | .string a, w, h => by
    cases w <;> simp_all [same]
  | .array vs, .array ws, h => by
    rw [same] at h ⊢
    exact sameItems_symm h
  | .object vs, .object ws, h => by
    rw [same] at h ⊢
    exact sameMembers_symm h
  | .array _, .null, h | .array _, .bool _, h | .array _, .integer _, h | .array _, .double _, h
  | .array _, .string _, h | .array _, .object _, h => by simp [same] at h
  | .object _, .null, h | .object _, .bool _, h | .object _, .integer _, h | .object _, .double _, h
  | .object _, .string _, h | .object _, .array _, h => by simp [same] at h

theorem sameItems_symm : ∀ {vs ws : List Json},
    sameItems vs ws = some true → sameItems ws vs = some true
  | [], [], _ => rfl
  | [], _ :: _, h => by simp [sameItems] at h
  | _ :: _, [], h => by simp [sameItems] at h
  | v :: vs, w :: ws, h => by
    rw [sameItems, both_eq_true] at h ⊢
    exact ⟨same_symm h.1, sameItems_symm h.2⟩

theorem sameMembers_symm : ∀ {vs ws : List (String × Json)},
    sameMembers vs ws = some true → sameMembers ws vs = some true
  | [], [], _ => rfl
  | [], _ :: _, h => by simp [sameMembers] at h
  | _ :: _, [], h => by simp [sameMembers] at h
  | (k, v) :: vs, (l, w) :: ws, h => by
    rw [sameMembers] at h ⊢
    by_cases hkey : k = l
    · rw [if_pos hkey, both_eq_true] at h
      rw [if_pos hkey.symm, both_eq_true]
      exact ⟨same_symm h.1, sameMembers_symm h.2⟩
    · rw [if_neg hkey] at h
      cases h

end

/-! ## Transitivity -/

mutual

theorem same_trans : ∀ {u v w : Json}, u.same v = some true → v.same w = some true →
    u.same w = some true
  | .null, v, w, h, _ => by simp at h
  | .bool a, v, w, h, h' => by
    cases v <;> cases w <;> simp_all [same]
  | .integer _, _, _, h, h' | .double _, _, _, h, h' =>
    (same_number rfl).2 ((same_number ((same_number rfl).1 h)).1 h')
  | .string a, v, w, h, h' => by
    cases v <;> cases w <;> simp_all [same]
  | .array us, .array vs, .array ws, h, h' => by
    rw [same] at h h' ⊢
    exact sameItems_trans h h'
  | .object us, .object vs, .object ws, h, h' => by
    rw [same] at h h' ⊢
    exact sameMembers_trans h h'
  | .array _, .null, _, h, _ | .array _, .bool _, _, h, _ | .array _, .integer _, _, h, _
  | .array _, .double _, _, h, _ | .array _, .string _, _, h, _ | .array _, .object _, _, h, _ => by
    simp [same] at h
  | .object _, .null, _, h, _ | .object _, .bool _, _, h, _ | .object _, .integer _, _, h, _
  | .object _, .double _, _, h, _ | .object _, .string _, _, h, _
  | .object _, .array _, _, h, _ => by
    simp [same] at h
  | .array _, .array _, .null, _, h | .array _, .array _, .bool _, _, h
  | .array _, .array _, .integer _, _, h | .array _, .array _, .double _, _, h
  | .array _, .array _, .string _, _, h | .array _, .array _, .object _, _, h => by
    simp [same] at h
  | .object _, .object _, .null, _, h | .object _, .object _, .bool _, _, h
  | .object _, .object _, .integer _, _, h | .object _, .object _, .double _, _, h
  | .object _, .object _, .string _, _, h | .object _, .object _, .array _, _, h => by
    simp [same] at h

theorem sameItems_trans : ∀ {us vs ws : List Json}, sameItems us vs = some true →
    sameItems vs ws = some true → sameItems us ws = some true
  | [], [], _, _, h => h
  | [], _ :: _, _, h, _ => by simp [sameItems] at h
  | _ :: _, [], _, h, _ => by simp [sameItems] at h
  | _ :: _, _ :: _, [], _, h => by simp [sameItems] at h
  | u :: us, v :: vs, w :: ws, h, h' => by
    rw [sameItems, both_eq_true] at h h' ⊢
    exact ⟨same_trans h.1 h'.1, sameItems_trans h.2 h'.2⟩

theorem sameMembers_trans : ∀ {us vs ws : List (String × Json)}, sameMembers us vs = some true →
    sameMembers vs ws = some true → sameMembers us ws = some true
  | [], [], _, _, h => h
  | [], _ :: _, _, h, _ => by simp [sameMembers] at h
  | _ :: _, [], _, h, _ => by simp [sameMembers] at h
  | _ :: _, _ :: _, [], _, h => by simp [sameMembers] at h
  | (j, u) :: us, (k, v) :: vs, (l, w) :: ws, h, h' => by
    rw [sameMembers] at h h' ⊢
    by_cases hfirst : j = k
    · by_cases hsecond : k = l
      · rw [if_pos hfirst, both_eq_true] at h
        rw [if_pos hsecond, both_eq_true] at h'
        rw [if_pos (hfirst.trans hsecond), both_eq_true]
        exact ⟨same_trans h.1 h'.1, sameMembers_trans h.2 h'.2⟩
      · rw [if_neg hsecond] at h'
        cases h'
    · rw [if_neg hfirst] at h
      cases h

end

/-! ## Reflexivity -/

theorem same_self_of_isScalar {v : Json} (h : v.isScalar = true) : v.same v = some true := by
  cases v <;> simp_all [same, isScalar]

theorem sameItems_self {vs : List Json} (h : vs.all isScalar = true) :
    sameItems vs vs = some true := by
  induction vs with
  | nil => rfl
  | cons v vs ih =>
    rw [List.all_cons, Bool.and_eq_true] at h
    rw [sameItems, both_eq_true]
    exact ⟨same_self_of_isScalar h.1, ih h.2⟩

/-- A value that is stored is equal to itself, unless it is null. -/
theorem same_self {v : Json} (h : v.isStorable = true) (hnull : v.isNull = false) :
    v.same v = some true := by
  cases v with
  | null => cases hnull
  | array vs =>
    rw [same]
    exact sameItems_self h
  | object members => cases h
  | _ => exact same_self_of_isScalar rfl

end GraphSync.Json
