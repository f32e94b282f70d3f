import ContactSearch.Proofs.Number.Digits
import ContactSearch.Proofs.Number.Rounding

/-!
# Reading decimals

The number nearest to a decimal depends on the value of the decimal only, so zeros may be moved
between its digits and its power. The shortest decimal of a number reads back as that number.
-/

namespace ContactSearch

open Text (natText)

namespace Binary64

/-- The least power of ten that a decimal is below. -/
def pointOf (digits : Nat) (power : Int) : Int :=
  power + (natText digits).length

theorem ofDecimal_zero (negative : Bool) (power : Int) :
    ofDecimal negative 0 power = zero negative := rfl

/-- A decimal as a ratio. -/
def decimalRatio (digits : Nat) (power : Int) : Nat × Nat :=
  (digits * 10 ^ power.toNat, 10 ^ (-power).toNat)

theorem decimalRatio_pos (digits : Nat) (power : Int) : 0 < (decimalRatio digits power).2 :=
  Nat.pow_pos (by decide)

theorem ofDecimal_of_pos {digits : Nat} (negative : Bool) (power : Int) (pos : 0 < digits) :
    ofDecimal negative digits power =
      if 310 < pointOf digits power then infinite negative
      else if pointOf digits power < -330 then zero negative
      else ofRatio negative (decimalRatio digits power).1 (decimalRatio digits power).2 := by
  rw [ofDecimal, if_neg pos.ne']
  have ratio : (if 0 ≤ power then ofRatio negative (digits * Nat.pow 10 power.toNat) 1
      else ofRatio negative digits (Nat.pow 10 (-power).toNat)) =
        ofRatio negative (decimalRatio digits power).1 (decimalRatio digits power).2 := by
    split
    · next whole =>
      rw [decimalRatio, Int.toNat_of_nonpos (by omega : -power ≤ 0)]
      rfl
    · next part =>
      rw [decimalRatio, Int.toNat_of_nonpos (by omega : power ≤ 0), Nat.pow_zero, Nat.mul_one]
      rfl
  rw [ratio]
  rfl

theorem ofDecimal_of_near {negative : Bool} {digits : Nat} {power : Int} (pos : 0 < digits)
    (low : -330 ≤ pointOf digits power) (high : pointOf digits power ≤ 310) :
    ofDecimal negative digits power =
      ofRatio negative (decimalRatio digits power).1 (decimalRatio digits power).2 := by
  rw [ofDecimal_of_pos _ _ pos, if_neg (Int.not_lt.mpr high), if_neg (Int.not_lt.mpr low)]

theorem isCanonical_ofDecimal (negative : Bool) (digits : Nat) (power : Int) :
    (ofDecimal negative digits power).IsCanonical := by
  rcases Nat.eq_zero_or_pos digits with rfl | pos
  · exact fits_zero
  · rw [ofDecimal_of_pos _ _ pos]
    split
    · trivial
    · split
      · exact fits_zero
      · exact isCanonical_ofRatio _ _ (decimalRatio_pos _ _)

/-- Every sign goes with the same magnitude. -/
theorem ofDecimal_sign {digits m : Nat} {power e : Int} (negative : Bool)
    (read : ofDecimal false digits power = finite false m e) :
    ofDecimal negative digits power = finite negative m e := by
  rcases Nat.eq_zero_or_pos digits with rfl | pos
  · rw [ofDecimal_zero] at read ⊢
    cases read
    rfl
  · rw [ofDecimal_of_pos _ _ pos] at read ⊢
    by_cases far : 310 < pointOf digits power
    · rw [if_pos far] at read
      cases read
    · rw [if_neg far] at read ⊢
      by_cases tiny : pointOf digits power < -330
      · rw [if_pos tiny] at read ⊢
        cases read
        rfl
      · rw [if_neg tiny] at read ⊢
        exact ofRatio_sign negative read

theorem ofRatio_decimalRatio_mul_pow (negative : Bool) (digits k : Nat) (power : Int) :
    ofRatio negative (decimalRatio (digits * 10 ^ k) power).1
        (decimalRatio (digits * 10 ^ k) power).2 =
      ofRatio negative (decimalRatio digits (power + k)).1
        (decimalRatio digits (power + k)).2 := by
  -- both ratios become the same one when they are brought to a common scale
  have left := ofRatio_mul_right negative (decimalRatio (digits * 10 ^ k) power).1
    (decimalRatio_pos (digits * 10 ^ k) power) (decimalRatio_pos digits (power + k))
  have right := ofRatio_mul_right negative (decimalRatio digits (power + k)).1
    (decimalRatio_pos digits (power + k)) (decimalRatio_pos (digits * 10 ^ k) power)
  rw [← left, ← right]
  simp only [decimalRatio, Nat.mul_assoc, ← Nat.pow_add]
  rw [Nat.add_comm (-power).toNat]
  congr 3
  omega

/-- Zeros at the end of the digits may be counted in the power. -/
theorem ofDecimal_mul_pow (negative : Bool) (digits k : Nat) (power : Int) :
    ofDecimal negative (digits * 10 ^ k) power = ofDecimal negative digits (power + k) := by
  rcases Nat.eq_zero_or_pos digits with rfl | pos
  · rw [Nat.zero_mul, ofDecimal_zero, ofDecimal_zero]
  · have pos' : 0 < digits * 10 ^ k := Nat.mul_pos pos (Nat.pow_pos (by decide))
    have point : pointOf (digits * 10 ^ k) power = pointOf digits (power + k) := by
      simp only [pointOf, length_natText_mul_pow pos]
      omega
    rw [ofDecimal_of_pos _ _ pos, ofDecimal_of_pos _ _ pos', point, ofRatio_decimalRatio_mul_pow]

/-! ## Shortest decimals -/

theorem pointOf_le {digits k : Nat} (power : Int) (pos : 0 < k) (lt : digits < 10 ^ k) :
    pointOf digits power ≤ power + k := by
  have := (length_natText_le_iff pos).mpr lt
  simp only [pointOf]
  omega

theorem le_pointOf {digits k : Nat} (power : Int) (le : 10 ^ k ≤ digits) :
    power + k < pointOf digits power := by
  have longer : k < (natText digits).length := by
    rcases Nat.eq_zero_or_pos k with rfl | pos
    · exact length_natText_pos digits
    · by_contra short
      have := (length_natText_le_iff pos).mp (Nat.not_lt.mp short)
      omega
  simp only [pointOf]
  omega

theorem mul_two_pow_lt {m n : Nat} (mantissa : m < 2 ^ 53) (greatest : n ≤ 971) :
    m * 2 ^ n < 10 ^ 310 := by
  calc m * 2 ^ n < 2 ^ 53 * 2 ^ n := by gcongr
    _ ≤ 2 ^ 53 * 2 ^ 971 := by gcongr; decide
    _ ≤ 10 ^ 310 := by decide +kernel

theorem mul_five_pow_lt {m : Nat} (mantissa : m < 2 ^ 53) (n : Nat) :
    m * 5 ^ n < 10 ^ (16 + n) := by
  calc m * 5 ^ n < 2 ^ 53 * 5 ^ n := by gcongr
    _ ≤ 10 ^ 16 * 10 ^ n := Nat.mul_le_mul (by decide) (Nat.pow_le_pow_left (by decide) n)
    _ = 10 ^ (16 + n) := (Nat.pow_add _ _ _).symm

theorem le_mul_five_pow {m n c : Nat} (pos : 0 < m) (enough : 2 ^ (n - c) ≤ 5 ^ c) :
    10 ^ (n - c) ≤ m * 5 ^ n := by
  rcases Nat.le_total n c with near | far
  · rw [Nat.sub_eq_zero_of_le near]
    exact Nat.mul_pos pos (Nat.pow_pos (by decide))
  · obtain ⟨k, rfl⟩ := Nat.exists_eq_add_of_le far
    rw [Nat.add_sub_cancel_left] at enough ⊢
    calc 10 ^ k = 2 ^ k * 5 ^ k := by rw [← Nat.mul_pow]
      _ ≤ 5 ^ c * 5 ^ k := Nat.mul_le_mul_right _ enough
      _ = 5 ^ (c + k) := (Nat.pow_add _ _ _).symm
      _ ≤ m * 5 ^ (c + k) := Nat.le_mul_of_pos_left _ pos

/-- The least exponent is far from a decimal that is not computed. -/
theorem two_pow_le_five_pow {n : Nat} (least : n ≤ 1074) : 2 ^ (n - 331) ≤ 5 ^ 331 := by
  calc 2 ^ (n - 331) ≤ 2 ^ 743 := Nat.pow_le_pow_right (by decide) (by omega)
    _ ≤ 5 ^ 331 := by decide +kernel

/-- The exact decimal of a number that fits reads back as it. -/
theorem ofDecimal_exactDecimal {m : Nat} {e : Int} (fits : Fits m e) (pos : 0 < m) :
    ofDecimal false (exactDecimal m e).digits (exactDecimal m e).power = finite false m e := by
  have mantissa := fits.lt
  have least := fits.least
  have greatest := fits.greatest
  by_cases whole : 0 ≤ e
  · rw [exactDecimal, if_pos whole]
    simp only [Nat.pow_eq]
    have digits_pos : 0 < m * 2 ^ e.toNat := Nat.mul_pos pos (Nat.pow_pos (by decide))
    have low := le_pointOf (k := 0) 0 digits_pos
    have high := pointOf_le 0 (by decide) (mul_two_pow_lt (n := e.toNat) mantissa (by omega))
    rw [ofDecimal_of_near digits_pos (by omega) (by omega), ← ofRatio_ratio false fits pos]
    simp [decimalRatio, ratio, scale, Int.toNat_of_nonpos (by omega : -e ≤ 0)]
  · obtain ⟨n, rfl⟩ : ∃ n : Nat, e = -n := ⟨(-e).toNat, by omega⟩
    rw [exactDecimal, if_neg whole]
    simp only [Nat.pow_eq, Int.neg_neg, Int.toNat_natCast]
    have digits_pos : 0 < m * 5 ^ n := Nat.mul_pos pos (Nat.pow_pos (by decide))
    have low := le_pointOf (-n) (le_mul_five_pow pos (two_pow_le_five_pow (n := n) (by omega)))
    have high := pointOf_le (-n) (by omega) (mul_five_pow_lt mantissa n)
    have halves := ofRatio_mul_right false m (Nat.two_pow_pos n)
      (Nat.pow_pos (by decide) : 0 < 5 ^ n)
    rw [ofDecimal_of_near digits_pos (by omega) (by omega), ← ofRatio_ratio false fits pos]
    rw [← Nat.mul_pow] at halves
    simpa [decimalRatio, ratio, scale] using halves

/-- The shortest decimal of a number that fits reads back as it. -/
theorem ofDecimal_shortest {m : Nat} {e : Int} (fits : Fits m e) (pos : 0 < m) :
    ofDecimal false (shortest m e).digits (shortest m e).power = finite false m e := by
  rcases readsBack_shortest m e with back | exact_one
  · exact eq_of_beq back
  · rw [exact_one]
    exact ofDecimal_exactDecimal fits pos

theorem digits_shortest_pos {m : Nat} {e : Int} (fits : Fits m e) (pos : 0 < m) :
    0 < (shortest m e).digits := by
  rw [Nat.pos_iff_ne_zero]
  intro none
  have back := ofDecimal_shortest fits pos
  rw [none, ofDecimal_zero] at back
  cases back
  omega

end Binary64

end ContactSearch
