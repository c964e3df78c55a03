import GraphSync.Double.Decimal
import Mathlib.Algebra.Order.Field.Power
import Mathlib.Data.Nat.Log
import Mathlib.Data.Rat.Cast.Order
import Mathlib.Tactic.Linarith
import Mathlib.Tactic.NormNum
import Mathlib.Tactic.Ring

/-! # Numbers that are too large for doubles

    The largest double is one unit in the last place below `2 ^ 1024`.  What
    lies less than half a unit above it is rounded down to it.  The middle
    goes up, since the largest double is odd.  So `overflow`, the middle, is
    the least number without a double (`ofDecimal?_eq_none_iff`).

    - `divRoundEven` rounds to a multiple of the divisor, a tie to an even one;
    - `place` is where a quotient has 53 digits (`place_spec`);
    - `nearest` is the place and these digits in one number, which reaches
      `infinite` at the last place, with all digits one, if they are rounded
      up (`infinite_le_nearest_iff`). -/

namespace GraphSync.Double

/-- The largest double. -/
def largest : Double := { negative := false, magnitude := infinite - 1 }

/-- Half a unit in the last place above the largest double. -/
def overflow : Nat := (2 ^ 54 - 1) * 2 ^ 970

/-- It is in the middle between the largest double and what the next magnitude
    would be. -/
example : 2 * (overflow * unitsPerOne) = units largest.magnitude + units infinite := by
  decide +kernel

theorem overflow_pos : 0 < overflow := by
  unfold overflow
  generalize 970 = k
  exact Nat.mul_pos (by decide) (Nat.two_pow_pos k)

/-! ## Rounding to whole numbers -/

theorem divRoundEven_bounds (num den : Nat) :
    num / den ≤ divRoundEven num den ∧ divRoundEven num den ≤ num / den + 1 := by
  unfold divRoundEven
  dsimp only
  split <;> omega

theorem divRoundEven_le {num den q : Nat} (h : num < q * den) : divRoundEven num den ≤ q := by
  have hq : num / den < q := Nat.div_lt_of_lt_mul (by rwa [Nat.mul_comm] at h)
  exact (divRoundEven_bounds num den).2.trans hq

/-- An even number is reached from half a unit below it on. -/
theorem le_divRoundEven_iff {num den q : Nat} (hden : 0 < den) (heven : q % 2 = 0) :
    q ≤ divRoundEven num den ↔ 2 * (q * den) ≤ 2 * num + den := by
  have hnum : num / den * den + num % den = num := by
    rw [Nat.mul_comm]
    exact Nat.div_add_mod num den
  have hrest : num % den < den := Nat.mod_lt num hden
  obtain ⟨hdown, hup⟩ := divRoundEven_bounds num den
  -- only at the number after the quotient does it matter how the rest is rounded
  rcases Nat.lt_trichotomy q (num / den + 1) with hlt | heq | hgt
  · have hmul : q * den ≤ num / den * den := Nat.mul_le_mul_right den (Nat.le_of_lt_succ hlt)
    exact ⟨fun _ => by omega, fun _ => by omega⟩
  · have hmul : q * den = num / den * den + den := by rw [heq, Nat.add_one_mul]
    have hodd : num / den % 2 = 1 := by omega
    unfold divRoundEven
    simp only [hodd, beq_self_eq_true, Bool.and_true, Bool.or_eq_true, decide_eq_true_eq,
      beq_iff_eq]
    split <;> omega
  · have hmul : (num / den + 2) * den ≤ q * den := Nat.mul_le_mul_right den hgt
    rw [Nat.add_mul] at hmul
    exact ⟨fun _ => by omega, fun _ => by omega⟩

/-! ## Fifty-three digits -/

theorem binade_eq : binade = 2 ^ 52 := rfl

/-- The exponent is a variable, so that nobody computes the power. -/
theorem exists_unitsPerOne_eq : ∃ u, u = 1074 ∧ unitsPerOne = 2 ^ u := by
  refine ⟨1074, rfl, ?_⟩
  unfold unitsPerOne
  generalize 1074 = u
  rfl

section guess

variable {num den k : Nat}

/-- The numbers of binary digits tell a place at which there are 54 digits at
    most. -/
theorem lt_of_log2_le (hden : den ≠ 0) (h : num.log2 + 1074 ≤ k + den.log2 + 53) :
    num * unitsPerOne < 2 * (2 * binade * (den * 2 ^ k)) := by
  obtain ⟨u, hu, hunits⟩ := exists_unitsPerOne_eq
  calc num * unitsPerOne < 2 ^ (num.log2 + 1) * 2 ^ u := by
        rw [hunits]
        exact Nat.mul_lt_mul_of_pos_right Nat.lt_log2_self (Nat.two_pow_pos u)
    _ = 2 ^ (num.log2 + 1 + u) := (Nat.pow_add 2 _ _).symm
    _ ≤ 2 ^ (54 + (den.log2 + k)) := Nat.pow_le_pow_right (by decide) (by omega)
    _ = 2 ^ 54 * (2 ^ den.log2 * 2 ^ k) := by rw [Nat.pow_add, Nat.pow_add]
    _ ≤ 2 ^ 54 * (den * 2 ^ k) :=
        Nat.mul_le_mul_left _ (Nat.mul_le_mul_right _ (Nat.log2_self_le hden))
    _ = 2 * (2 * binade * (den * 2 ^ k)) := by rw [binade_eq]; ring

/-- At that place there are 53 digits at least. -/
theorem le_of_log2_eq (hnum : num ≠ 0) (h : k + den.log2 + 53 = num.log2 + 1074) :
    binade * (den * 2 ^ k) ≤ num * unitsPerOne := by
  obtain ⟨u, hu, hunits⟩ := exists_unitsPerOne_eq
  have hexponent : 52 + (den.log2 + 1 + k) = num.log2 + u := by omega
  calc binade * (den * 2 ^ k) ≤ 2 ^ 52 * (2 ^ (den.log2 + 1) * 2 ^ k) := by
        rw [binade_eq]
        exact Nat.mul_le_mul_left _ (Nat.mul_le_mul_right _ Nat.lt_log2_self.le)
    _ = 2 ^ (num.log2 + u) := by rw [← Nat.pow_add, ← Nat.pow_add, hexponent]
    _ = 2 ^ num.log2 * unitsPerOne := by rw [hunits, Nat.pow_add]
    _ ≤ num * unitsPerOne := Nat.mul_le_mul_right _ (Nat.log2_self_le hnum)

end guess

/-- The place of the last of 53 digits: the quotient has no more digits there,
    and no fewer unless it is among the smallest. -/
theorem place_spec {num den : Nat} (hnum : num ≠ 0) (hden : den ≠ 0) :
    num * unitsPerOne < 2 * binade * (den * 2 ^ place num den) ∧
      (place num den = 0 ∨ binade * (den * 2 ^ place num den) ≤ num * unitsPerOne) := by
  -- the guess is right or one too small
  obtain ⟨k, hk⟩ : ∃ k, k = num.log2 + 1074 - den.log2 - 53 := ⟨_, rfl⟩
  have hplace : place num den =
      if num * unitsPerOne / (den * 2 ^ k) < 2 * binade then k else k + 1 := by
    rw [place, ← hk]
    rfl
  have hupper : num * unitsPerOne < 2 * (2 * binade * (den * 2 ^ k)) :=
    lt_of_log2_le hden (by omega)
  have hlower : k = 0 ∨ binade * (den * 2 ^ k) ≤ num * unitsPerOne := by
    rcases Nat.eq_zero_or_pos k with hzero | hpos
    · exact .inl hzero
    · exact .inr (le_of_log2_eq hnum (by omega))
  have hpos : 0 < den * 2 ^ k := Nat.mul_pos (Nat.pos_of_ne_zero hden) (Nat.two_pow_pos k)
  rw [hplace]
  split
  · next h => exact ⟨(Nat.div_lt_iff_lt_mul hpos).1 h, hlower⟩
  · next h =>
    rw [Nat.not_lt, Nat.le_div_iff_mul_le hpos] at h
    have hnext : den * 2 ^ (k + 1) = 2 * (den * 2 ^ k) := by ring
    rw [hnext]
    exact ⟨by linarith, .inr (by linarith)⟩

/-! ## The nearest double -/

/-- Half a unit at the last place of finite doubles, 2045, against a unit at
    another place. -/
theorem unit_cases (den k : Nat) :
    (k < 2045 → den * 2 ^ k ≤ den * 2 ^ 2044) ∧
    (k = 2045 → den * 2 ^ k = 2 * (den * 2 ^ 2044)) ∧
    (2045 < k → 4 * (den * 2 ^ 2044) ≤ den * 2 ^ k) := by
  obtain ⟨w, hw⟩ : ∃ w, w = 2044 := ⟨_, rfl⟩
  rw [← hw]
  refine ⟨fun h => ?_, fun h => ?_, fun h => ?_⟩
  · exact Nat.mul_le_mul_left den (Nat.pow_le_pow_right (by decide) (by omega))
  · rw [show k = w + 1 by omega, Nat.pow_succ]
    ring
  · calc 4 * (den * 2 ^ w) = den * 2 ^ (w + 2) := by ring
      _ ≤ den * 2 ^ k := Nat.mul_le_mul_left den (Nat.pow_le_pow_right (by decide) (by omega))

/-- What is too large, in halves of a unit at the last place. -/
theorem overflow_mul_le_iff {num den : Nat} :
    overflow * den ≤ num ↔ (2 ^ 54 - 1) * (den * 2 ^ 2044) ≤ num * unitsPerOne := by
  obtain ⟨u, hu, hunits⟩ := exists_unitsPerOne_eq
  obtain ⟨v, hv⟩ : ∃ v, v = 970 := ⟨_, rfl⟩
  have hleft : (2 ^ 54 - 1) * (den * 2 ^ (v + u)) = (2 ^ 54 - 1) * 2 ^ v * den * 2 ^ u := by
    rw [Nat.pow_add]
    ring
  rw [show 2044 = v + u by omega, hleft, hunits, Nat.mul_le_mul_right_iff (Nat.two_pow_pos u), hv]
  rfl

/-- The nearest double is not finite for what is too large, and only for
    that. -/
theorem infinite_le_nearest_iff {num den : Nat} (hden : den ≠ 0) :
    infinite ≤ nearest num den ↔ overflow * den ≤ num := by
  by_cases hnum : num = 0
  · have hpos : 0 < overflow * den := Nat.mul_pos overflow_pos (Nat.pos_of_ne_zero hden)
    rw [hnum, nearest, if_pos rfl]
    exact ⟨fun h => absurd h (by decide), fun h => absurd h (Nat.not_le.2 hpos)⟩
  · obtain ⟨hupper, hlower⟩ := place_spec hnum hden
    have hpos : 0 < den * 2 ^ place num den :=
      Nat.mul_pos (Nat.pos_of_ne_zero hden) (Nat.two_pow_pos _)
    have hnearest : nearest num den = place num den * binade +
        divRoundEven (num * unitsPerOne) (den * 2 ^ place num den) := by
      rw [nearest, if_neg hnum]
      rfl
    have hmost : divRoundEven (num * unitsPerOne) (den * 2 ^ place num den) ≤ 2 * binade :=
      divRoundEven_le hupper
    have hleast : place num den = 0 ∨
        binade ≤ divRoundEven (num * unitsPerOne) (den * 2 ^ place num den) :=
      hlower.imp_right fun h => (le_divRoundEven_iff hpos (by decide)).2 (by omega)
    -- the digits are rounded up to `2 * binade` when they are all one
    have hlast : 2 * binade ≤ divRoundEven (num * unitsPerOne) (den * 2 ^ place num den) ↔ _ :=
      le_divRoundEven_iff hpos (by decide)
    have hunit := unit_cases den (place num den)
    rw [hnearest, overflow_mul_le_iff]
    -- the rest is about the place and the digits, whatever they are computed from
    generalize place num den = k at *
    generalize den * 2 ^ k = d at *
    generalize den * 2 ^ 2044 = x at *
    generalize num * unitsPerOne = n at *
    generalize divRoundEven n d = q at *
    rw [infinite, binade_eq] at *
    omega

theorem ofRatio?_eq_none_iff {negative : Bool} {num den : Nat} (hden : den ≠ 0) :
    ofRatio? negative num den = none ↔ overflow * den ≤ num := by
  rw [← infinite_le_nearest_iff hden, ofRatio?, ofMagnitude?, ← Nat.not_lt, infinite]
  split
  · next h => simp [h]
  · next h => simp [h]

/-! ## Decimal numbers -/

/-- The digits of a number that is not zero say between which powers of ten it
    is. -/
theorem length_toDigits_bounds {n : Nat} (h : n ≠ 0) :
    10 ^ ((Nat.toDigits 10 n).length - 1) ≤ n ∧ n < 10 ^ (Nat.toDigits 10 n).length := by
  have hlength : 0 < (Nat.toDigits 10 n).length := Nat.length_toDigits_pos
  refine ⟨?_, (Nat.length_toDigits_le_iff (by decide) hlength).1 (Nat.le_refl _)⟩
  rcases Nat.eq_zero_or_pos ((Nat.toDigits 10 n).length - 1) with hone | hmore
  · rw [hone]
    exact Nat.pos_of_ne_zero h
  · rw [← Nat.not_lt, ← Nat.length_toDigits_le_iff (by decide) hmore]
    omega

/-- A decimal number is at most as large as its digits and its exponent say. -/
theorem decimal_bounds {n : Nat} (h : n ≠ 0) (e : Int) :
    (10 : ℚ) ^ ((Nat.toDigits 10 n).length + e - 1) ≤ n * 10 ^ e ∧
      (n : ℚ) * 10 ^ e < 10 ^ ((Nat.toDigits 10 n).length + e) := by
  have hten : (10 : ℚ) ≠ 0 := by norm_num
  have hpos : (0 : ℚ) < 10 ^ e := zpow_pos (by norm_num) e
  obtain ⟨hlow, hhigh⟩ := length_toDigits_bounds h
  have hlength : 0 < (Nat.toDigits 10 n).length := Nat.length_toDigits_pos
  generalize (Nat.toDigits 10 n).length = l at *
  constructor
  · have hexponent : (l : Int) + e - 1 = (l - 1 : Nat) + e := by omega
    rw [hexponent, zpow_add₀ hten, zpow_natCast]
    exact mul_le_mul_of_nonneg_right (by exact_mod_cast hlow) hpos.le
  · rw [zpow_add₀ hten, zpow_natCast]
    exact mul_lt_mul_of_pos_right (by exact_mod_cast hhigh) hpos

theorem one_le_overflow : (1 : ℚ) ≤ overflow := by exact_mod_cast overflow_pos

theorem overflow_le_pow : (overflow : ℚ) ≤ 10 ^ (330 : Int) := by
  have h : overflow ≤ 10 ^ 330 := by decide +kernel
  exact_mod_cast h

/-- A decimal number has no double exactly if it is too large. -/
theorem ofDecimal?_eq_none_iff (negative : Bool) {n : Nat} {e : Int} :
    ofDecimal? negative n e = none ↔ (overflow : ℚ) ≤ n * 10 ^ e := by
  by_cases hzero : n = 0
  · have hpos := one_le_overflow
    rw [ofDecimal?, if_pos hzero, hzero, Nat.cast_zero, zero_mul]
    exact ⟨fun h => (nomatch h), fun h => by linarith⟩
  · obtain ⟨hlow, hhigh⟩ := decimal_bounds hzero e
    rw [ofDecimal?, if_neg hzero]
    dsimp only
    generalize (Nat.toDigits 10 n).length = l at *
    split_ifs with hsmall hlarge hwhole
    -- two cases in which no power of ten is computed
    · have hless : (n : ℚ) * 10 ^ e < 1 :=
        hhigh.trans_le (zpow_le_one_of_nonpos₀ (by norm_num) (by omega))
      exact ⟨fun h => (nomatch h), fun h => absurd (one_le_overflow.trans h) (not_le.2 hless)⟩
    · have hmore : (10 : ℚ) ^ (330 : Int) ≤ n * 10 ^ e :=
        (zpow_le_zpow_right₀ (by norm_num) (by omega)).trans hlow
      exact ⟨fun _ => overflow_le_pow.trans hmore, fun _ => rfl⟩
    -- and two in which the number is a quotient
    · obtain ⟨k, rfl⟩ := Int.eq_ofNat_of_zero_le hwhole
      rw [ofRatio?_eq_none_iff Nat.one_ne_zero, Nat.mul_one, zpow_natCast]
      exact_mod_cast Iff.rfl
    · obtain ⟨k, hk⟩ := Int.eq_ofNat_of_zero_le (show 0 ≤ -e by omega)
      have hpow : 0 < 10 ^ k := Nat.pow_pos (by decide)
      rw [show e = -(k : Int) by omega, Int.neg_neg, zpow_neg, zpow_natCast, ← div_eq_mul_inv,
        le_div_iff₀ (by exact_mod_cast hpow)]
      refine (ofRatio?_eq_none_iff hpow.ne').trans ?_
      exact_mod_cast Iff.rfl

end GraphSync.Double
