import ContactSearch.Number.Binary64
import Mathlib.Algebra.Order.Field.Power
import Mathlib.Data.Int.Log
import Mathlib.Data.Rat.Floor
import Mathlib.Tactic.FieldSimp
import Mathlib.Tactic.Linarith
import Mathlib.Tactic.Positivity

/-!
# Rounding a ratio

Rounding always ends in a mantissa and an exponent that fit the format, it depends on the value of
the ratio only, and it leaves a value that fits as it is.
-/

namespace ContactSearch

namespace Binary64

/-- A mantissa and an exponent of the format: the mantissa has all of its bits, or the exponent is
the least one. -/
structure Fits (m : Nat) (e : Int) : Prop where
  lt : m < 2 ^ 53
  least : -1074 ≤ e
  greatest : e ≤ 971
  full : 2 ^ 52 ≤ m ∨ e = -1074

/-- A number whose mantissa and exponent fit, if it has them. -/
def IsCanonical : Binary64 → Prop
  | finite _ m e => Fits m e
  | _ => True

theorem fits_zero : Fits 0 minExponent :=
  ⟨by decide, by decide, by decide, .inr rfl⟩

/-! ## Rounding a quotient -/

theorem le_roundDiv {num den k : Nat} (pos : 0 < den) (le : k * den ≤ num) :
    k ≤ roundDiv num den := by
  have quotient : k ≤ num / den := (Nat.le_div_iff_mul_le pos).mpr le
  simp only [roundDiv]
  split
  · exact quotient
  · split
    · omega
    · split <;> omega

theorem roundDiv_le {num den k : Nat} (pos : 0 < den) (le : num ≤ k * den) :
    roundDiv num den ≤ k := by
  have parts := Nat.div_add_mod num den
  have small := Nat.mod_lt num pos
  have quotient : num / den ≤ k := Nat.div_le_of_le_mul (by rwa [Nat.mul_comm])
  -- the quotient is below the bound as soon as anything is left over
  have rest : 0 < num % den → num / den < k := by
    intro left
    apply Nat.lt_of_mul_lt_mul_left (a := den)
    rw [Nat.mul_comm den k]
    omega
  simp only [roundDiv]
  split
  · exact quotient
  · have := rest (by omega)
    split
    · omega
    · split <;> omega

theorem roundDiv_mul_self {den : Nat} (k : Nat) (pos : 0 < den) : roundDiv (k * den) den = k :=
  Nat.le_antisymm (roundDiv_le pos (Nat.le_refl _)) (le_roundDiv pos (Nat.le_refl _))

theorem roundDiv_mul_right (num den : Nat) {c : Nat} (pos : 0 < c) :
    roundDiv (num * c) (den * c) = roundDiv num den := by
  have below : 2 * (num % den * c) < den * c ↔ 2 * (num % den) < den := by
    rw [← Nat.mul_assoc, Nat.mul_lt_mul_right pos]
  have above : den * c < 2 * (num % den * c) ↔ den < 2 * (num % den) := by
    rw [← Nat.mul_assoc, Nat.mul_lt_mul_right pos]
  simp only [roundDiv, Nat.mul_div_mul_right _ _ pos, Nat.mul_mod_mul_right, below, above]

/-! ## Ratios as rational numbers -/

theorem scale_pos (num : Nat) {den : Nat} (power : Int) (pos : 0 < den) :
    0 < (scale num den power).2 :=
  Nat.mul_pos pos (Nat.pow_pos (by decide))

theorem scale_mul_right (num den c : Nat) (power : Int) :
    scale (num * c) (den * c) power =
      ((scale num den power).1 * c, (scale num den power).2 * c) := by
  simp only [scale, Nat.mul_right_comm]

/-- Scaling multiplies the value. -/
theorem value_scale (num den : Nat) (power : Int) :
    ((scale num den power).1 : ℚ) / (scale num den power).2 = num / den * 2 ^ power := by
  have split : (2 : ℚ) ^ power = 2 ^ power.toNat / 2 ^ (-power).toNat := by
    rw [← zpow_natCast, ← zpow_natCast, ← zpow_sub₀ two_ne_zero]
    congr 1
    omega
  rw [split]
  simp only [scale, Nat.pow_eq, Nat.cast_mul, Nat.cast_pow, Nat.cast_ofNat]
  rw [mul_div_mul_comm]

/-- The power found for a ratio is its logarithm. -/
theorem floorLog2_eq_log {num den : Nat} (num_pos : 0 < num) (den_pos : 0 < den) :
    floorLog2 num den = Int.log 2 ((num : ℚ) / den) := by
  have value_pos : (0 : ℚ) < num / den := by positivity
  have den_pos' : (0 : ℚ) < den := by positivity
  have num_low : (2 : ℚ) ^ num.log2 ≤ num := by exact_mod_cast Nat.log2_self_le num_pos.ne'
  have num_high : (num : ℚ) < 2 ^ (num.log2 + 1) := by exact_mod_cast Nat.lt_log2_self
  have den_low : (2 : ℚ) ^ den.log2 ≤ den := by exact_mod_cast Nat.log2_self_le den_pos.ne'
  have den_high : (den : ℚ) < 2 ^ (den.log2 + 1) := by exact_mod_cast Nat.lt_log2_self
  obtain ⟨guess, guess_eq⟩ : ∃ guess : Int, guess = (num.log2 : Int) - den.log2 := ⟨_, rfl⟩
  have low : (2 : ℚ) ^ (guess - 1) ≤ num / den := by
    rw [le_div_iff₀ den_pos']
    calc (2 : ℚ) ^ (guess - 1) * den ≤ 2 ^ (guess - 1) * 2 ^ (den.log2 + 1) := by gcongr
      _ = 2 ^ num.log2 := by
        rw [← zpow_natCast, ← zpow_natCast, ← zpow_add₀ two_ne_zero]
        congr 1
        omega
      _ ≤ num := num_low
  have high : (num : ℚ) / den < 2 ^ (guess + 1) := by
    rw [div_lt_iff₀ den_pos']
    calc (num : ℚ) < 2 ^ (num.log2 + 1) := num_high
      _ = 2 ^ (guess + 1) * 2 ^ den.log2 := by
        rw [← zpow_natCast, ← zpow_natCast, ← zpow_add₀ two_ne_zero]
        congr 1
        omega
      _ ≤ 2 ^ (guess + 1) * den := by gcongr
  have low_log := (Int.zpow_le_iff_le_log (R := ℚ) (b := 2) (by decide) value_pos).mp low
  have high_log := (Int.lt_zpow_iff_log_lt (R := ℚ) (b := 2) (by decide) value_pos).mp high
  -- the scaled ratio tells on which side of the guess the value lies
  have test : (scale num den (-guess)).1 < (scale num den (-guess)).2 ↔
      Int.log 2 ((num : ℚ) / den) < guess := by
    have scaled_pos := scale_pos num (-guess) den_pos
    rw [← Int.lt_zpow_iff_log_lt (R := ℚ) (b := 2) (by decide) value_pos, ← Nat.cast_lt (α := ℚ),
      ← div_lt_one (by exact_mod_cast scaled_pos), value_scale, zpow_neg, ← div_eq_mul_inv,
      div_lt_one (by positivity)]
    rfl
  simp only [floorLog2, ← guess_eq, test]
  split <;> omega

/-! ## The nearest number -/

/-- The exponent that a ratio is rounded at. -/
def roundingExponent (num den : Nat) : Int :=
  max (floorLog2 num den - 52) minExponent

/-- The mantissa that a ratio is rounded to. -/
def roundedMantissa (num den : Nat) : Nat :=
  roundDiv (scale num den (-roundingExponent num den)).1
    (scale num den (-roundingExponent num den)).2

/-- A mantissa and an exponent as a number, with the mantissa cut back if it grew by a bit, and
infinite beyond the greatest exponent. -/
def settle (negative : Bool) (m : Nat) (e : Int) : Binary64 :=
  let (m, e) := if m = 2 ^ 53 then (2 ^ 52, e + 1) else (m, e)
  if 971 < e then infinite negative else finite negative m e

theorem ofRatio_eq (negative : Bool) {num : Nat} (den : Nat) (pos : 0 < num) :
    ofRatio negative num den =
      settle negative (roundedMantissa num den) (roundingExponent num den) := by
  rw [ofRatio, if_neg pos.ne']
  rfl

theorem settle_of_lt {negative : Bool} {m : Nat} {e : Int} (lt : m < 2 ^ 53) :
    settle negative m e = if 971 < e then infinite negative else finite negative m e := by
  rw [settle, if_neg (Nat.ne_of_lt lt)]

theorem settle_grown (negative : Bool) (e : Int) :
    settle negative (2 ^ 53) e =
      if 971 < e + 1 then infinite negative else finite negative (2 ^ 52) (e + 1) := by
  rw [settle, if_pos rfl]

/-- Every sign goes with the same magnitude. -/
theorem ofRatio_sign {num den m : Nat} {e : Int} (negative : Bool)
    (rounded : ofRatio false num den = finite false m e) :
    ofRatio negative num den = finite negative m e := by
  rcases Nat.eq_zero_or_pos num with rfl | pos
  · simpa [ofRatio, zero] using rounded
  · rw [ofRatio_eq _ _ pos] at rounded ⊢
    simp only [settle] at rounded ⊢
    generalize (if roundedMantissa num den = 2 ^ 53 then _ else _) = settled at rounded ⊢
    by_cases beyond : 971 < settled.2
    · rw [if_pos beyond] at rounded
      cases rounded
    · rw [if_neg beyond] at rounded ⊢
      cases rounded
      rfl

theorem ofRatio_zero (negative : Bool) (den : Nat) : ofRatio negative 0 den = zero negative := rfl

/-- The mantissa has at most one bit too many, and all of its bits above the least exponent. -/
theorem roundedMantissa_bounds {num den : Nat} (num_pos : 0 < num) (den_pos : 0 < den) :
    roundedMantissa num den ≤ 2 ^ 53 ∧
      (2 ^ 52 ≤ roundedMantissa num den ∨ roundingExponent num den = minExponent) := by
  have value_pos : (0 : ℚ) < num / den := by positivity
  have scaled_pos := scale_pos num (-roundingExponent num den) den_pos
  have scaled_pos' : (0 : ℚ) < (scale num den (-roundingExponent num den)).2 := by
    exact_mod_cast scaled_pos
  have value := value_scale num den (-roundingExponent num den)
  rw [zpow_neg, ← div_eq_mul_inv, div_eq_iff scaled_pos'.ne'] at value
  have log := floorLog2_eq_log num_pos den_pos
  constructor
  · apply roundDiv_le scaled_pos
    have high : (num : ℚ) / den ≤ 2 ^ (53 + roundingExponent num den) := by
      refine (Int.lt_zpow_iff_log_lt (R := ℚ) (b := 2) (by decide) value_pos).mpr ?_ |>.le
      rw [← log]
      simp only [roundingExponent]
      omega
    have high' : (num : ℚ) / den / 2 ^ roundingExponent num den ≤ 2 ^ 53 := by
      rw [div_le_iff₀ (by positivity)]
      rwa [zpow_add₀ two_ne_zero] at high
    rw [← Nat.cast_le (α := ℚ), value, Nat.cast_mul, Nat.cast_pow, Nat.cast_ofNat]
    exact mul_le_mul_of_nonneg_right high' scaled_pos'.le
  · by_cases least : roundingExponent num den = minExponent
    · exact .inr least
    · refine .inl (le_roundDiv scaled_pos ?_)
      have low : (2 : ℚ) ^ (52 + roundingExponent num den) ≤ num / den := by
        refine (Int.zpow_le_iff_le_log (R := ℚ) (b := 2) (by decide) value_pos).mpr ?_
        rw [← log]
        simp only [roundingExponent] at least ⊢
        omega
      have low' : (2 : ℚ) ^ 52 ≤ num / den / 2 ^ roundingExponent num den := by
        rw [le_div_iff₀ (by positivity)]
        rwa [zpow_add₀ two_ne_zero] at low
      rw [← Nat.cast_le (α := ℚ), value, Nat.cast_mul, Nat.cast_pow, Nat.cast_ofNat]
      exact mul_le_mul_of_nonneg_right low' scaled_pos'.le

theorem isCanonical_settle {negative : Bool} {m : Nat} {e : Int} (at_most : m ≤ 2 ^ 53)
    (full : 2 ^ 52 ≤ m ∨ e = -1074) (least : -1074 ≤ e) : (settle negative m e).IsCanonical := by
  rcases Nat.lt_or_eq_of_le at_most with lt | rfl
  · rw [settle_of_lt lt]
    split
    · trivial
    · exact ⟨lt, least, by omega, full⟩
  · rw [settle_grown]
    split
    · trivial
    · exact ⟨by decide, by omega, by omega, .inl (Nat.le_refl _)⟩

theorem isCanonical_ofRatio (negative : Bool) (num : Nat) {den : Nat} (den_pos : 0 < den) :
    (ofRatio negative num den).IsCanonical := by
  rcases Nat.eq_zero_or_pos num with rfl | num_pos
  · exact fits_zero
  · have bounds := roundedMantissa_bounds num_pos den_pos
    rw [ofRatio_eq _ _ num_pos]
    exact isCanonical_settle bounds.1 bounds.2 (le_max_right _ _)

/-- Only the value of the ratio counts. -/
theorem ofRatio_mul_right (negative : Bool) (num : Nat) {den c : Nat} (den_pos : 0 < den)
    (pos : 0 < c) : ofRatio negative (num * c) (den * c) = ofRatio negative num den := by
  rcases Nat.eq_zero_or_pos num with rfl | num_pos
  · rw [Nat.zero_mul, ofRatio_zero, ofRatio_zero]
  · have exponent : roundingExponent (num * c) (den * c) = roundingExponent num den := by
      have value : ((num * c : ℕ) : ℚ) / (den * c : ℕ) = num / den := by
        push_cast
        exact mul_div_mul_right _ _ (by positivity)
      simp only [roundingExponent]
      rw [floorLog2_eq_log (Nat.mul_pos num_pos pos) (Nat.mul_pos den_pos pos), value,
        floorLog2_eq_log num_pos den_pos]
    have mantissa : roundedMantissa (num * c) (den * c) = roundedMantissa num den := by
      simp only [roundedMantissa, exponent, scale_mul_right, roundDiv_mul_right _ _ pos]
    rw [ofRatio_eq _ _ (Nat.mul_pos num_pos pos), ofRatio_eq _ _ num_pos, exponent, mantissa]

/-- The value of a number that fits is that number again. -/
theorem ofRatio_ratio {m : Nat} {e : Int} (negative : Bool) (fits : Fits m e) (pos : 0 < m) :
    ofRatio negative (ratio m e).1 (ratio m e).2 = finite negative m e := by
  have num_pos : 0 < (ratio m e).1 := Nat.mul_pos pos (Nat.pow_pos (by decide))
  have den_pos : 0 < (ratio m e).2 := scale_pos m e (by decide)
  have value : ((ratio m e).1 : ℚ) / (ratio m e).2 = m * 2 ^ e := by
    have := value_scale m 1 e
    rwa [Nat.cast_one, div_one] at this
  have log : floorLog2 (ratio m e).1 (ratio m e).2 = m.log2 + e := by
    have m_low : (2 : ℚ) ^ m.log2 ≤ m := by exact_mod_cast Nat.log2_self_le pos.ne'
    have m_high : (m : ℚ) < 2 ^ (m.log2 + 1) := by exact_mod_cast Nat.lt_log2_self
    have value_pos : (0 : ℚ) < m * 2 ^ e := by positivity
    rw [floorLog2_eq_log num_pos den_pos, value]
    have low : (2 : ℚ) ^ ((m.log2 : Int) + e) ≤ m * 2 ^ e := by
      rw [zpow_add₀ two_ne_zero, zpow_natCast]
      gcongr
    have high : (m : ℚ) * 2 ^ e < 2 ^ ((m.log2 : Int) + 1 + e) := by
      rw [zpow_add₀ two_ne_zero]
      gcongr
      exact_mod_cast m_high
    have low_log := (Int.zpow_le_iff_le_log (R := ℚ) (b := 2) (by decide) value_pos).mp low
    have high_log := (Int.lt_zpow_iff_log_lt (R := ℚ) (b := 2) (by decide) value_pos).mp high
    omega
  have bits : m.log2 < 53 := (Nat.log2_lt pos.ne').mpr fits.lt
  have exponent : roundingExponent (ratio m e).1 (ratio m e).2 = e := by
    have least := fits.least
    simp only [roundingExponent, log, minExponent]
    rcases fits.full with full | rfl
    · have := (Nat.le_log2 pos.ne').mpr full
      omega
    · omega
  have mantissa : roundedMantissa (ratio m e).1 (ratio m e).2 = m := by
    have back : (scale (ratio m e).1 (ratio m e).2 (-e)).1 =
        m * (scale (ratio m e).1 (ratio m e).2 (-e)).2 := by
      simp only [ratio, scale, Int.neg_neg, Nat.one_mul, Nat.mul_assoc]
      rw [Nat.mul_comm (Nat.pow 2 e.toNat)]
    rw [roundedMantissa, exponent, back]
    exact roundDiv_mul_self m (scale_pos _ _ den_pos)
  rw [ofRatio_eq _ _ num_pos, exponent, mantissa, settle_of_lt fits.lt,
    if_neg (Int.not_lt.mpr fits.greatest)]

end Binary64

end ContactSearch
