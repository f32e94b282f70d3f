import ContactSearch.Proofs.Number.Rounding

/-!
# The value of a number

A finite number has a rational value. It is an integer exactly where its value is one, and apart from
zero, which has two signs, numbers that fit the format and have one value are one number.
-/

namespace ContactSearch

namespace Binary64

/-- The value of a finite number. -/
def value? : Binary64 → Option ℚ
  | finite negative m e => some (if negative then -(m * 2 ^ e) else m * 2 ^ e)
  | _ => none

theorem value_ratio (m : Nat) (e : Int) :
    ((ratio m e).1 : ℚ) / (ratio m e).2 = m * 2 ^ e := by
  have value := value_scale m 1 e
  rwa [Nat.cast_one, div_one] at value

theorem ratio_pos (m : Nat) (e : Int) : 0 < (ratio m e).2 :=
  scale_pos m e (by decide)

/-- A magnitude is an integer where its ratio leaves no rest. -/
theorem magnitude_eq_iff (m : Nat) (e n : Int) : (m * 2 ^ e : ℚ) = n ↔
    (ratio m e).1 % (ratio m e).2 = 0 ∧ (((ratio m e).1 / (ratio m e).2 : Nat) : Int) = n := by
  have pos := ratio_pos m e
  rw [← value_ratio m e, div_eq_iff (by exact_mod_cast pos.ne')]
  generalize (ratio m e).1 = num at *
  generalize (ratio m e).2 = den at *
  constructor
  · intro whole
    have whole : (num : Int) = n * den := by exact_mod_cast whole
    have divides : den ∣ num := Int.natCast_dvd_natCast.mp ⟨n, by rw [whole, Int.mul_comm]⟩
    refine ⟨Nat.mod_eq_zero_of_dvd divides, ?_⟩
    rw [Int.natCast_div, whole, Int.mul_ediv_cancel n (by exact_mod_cast pos.ne')]
  · rintro ⟨rest, rfl⟩
    exact_mod_cast (Nat.div_mul_cancel (Nat.dvd_of_mod_eq_zero rest)).symm

/-- A number is an integer where its value is. -/
theorem toInt?_eq_some_iff {x : Binary64} {n : Int} :
    x.toInt? = some n ↔ x.value? = some (n : ℚ) := by
  cases x with
  | nan => simp [toInt?, value?]
  | infinite negative => simp [toInt?, value?]
  | finite negative m e =>
    cases negative with
    | false => simp [toInt?, value?, magnitude_eq_iff]
    | true =>
      have opposite : -(m * 2 ^ e : ℚ) = n ↔ (ratio m e).1 % (ratio m e).2 = 0 ∧
          (((ratio m e).1 / (ratio m e).2 : Nat) : Int) = -n := by
        rw [← magnitude_eq_iff, Int.cast_neg, neg_eq_iff_eq_neg]
      simp [toInt?, value?, opposite, neg_eq_iff_eq_neg]

/-- A magnitude other than zero has one mantissa and one exponent that fit. -/
theorem Fits.unique {m m' : Nat} {e e' : Int} (fits : Fits m e) (fits' : Fits m' e') (pos : 0 < m)
    (pos' : 0 < m') (same : (m * 2 ^ e : ℚ) = m' * 2 ^ e') : m = m' ∧ e = e' := by
  have den_pos := ratio_pos m e
  have den_pos' := ratio_pos m' e'
  have crossed : (ratio m e).1 * (ratio m' e').2 = (ratio m' e').1 * (ratio m e).2 := by
    rw [← value_ratio, ← value_ratio, div_eq_div_iff (by exact_mod_cast den_pos.ne')
      (by exact_mod_cast den_pos'.ne')] at same
    exact_mod_cast same
  -- Both are what the common value is rounded to.
  have one : finite false m e = finite false m' e' := by
    rw [← ofRatio_ratio false fits pos, ← ofRatio_ratio false fits' pos',
      ← ofRatio_mul_right false _ den_pos den_pos', crossed, Nat.mul_comm (ratio m e).2,
      ofRatio_mul_right false _ den_pos' den_pos]
  cases one
  exact ⟨rfl, rfl⟩

/-- Numbers that fit the format are equal where their values are, unless these are zero. -/
theorem eq_of_value?_eq {x y : Binary64} {q : ℚ} (fits : x.IsCanonical) (fits' : y.IsCanonical)
    (nonzero : q ≠ 0) (left : x.value? = some q) (right : y.value? = some q) : x = y := by
  cases x with
  | nan => cases left
  | infinite negative => cases left
  | finite negative m e =>
    cases y with
    | nan => cases right
    | infinite negative => cases right
    | finite negative' m' e' =>
      have power : (0 : ℚ) < 2 ^ e := by positivity
      have power' : (0 : ℚ) < 2 ^ e' := by positivity
      have left : (if negative then -(m * 2 ^ e) else m * 2 ^ e : ℚ) = q := Option.some.inj left
      have right : (if negative' then -(m' * 2 ^ e') else m' * 2 ^ e' : ℚ) = q :=
        Option.some.inj right
      have pos : 0 < m := by
        rcases Nat.eq_zero_or_pos m with rfl | pos
        · simp [nonzero.symm] at left
        · exact pos
      have pos' : 0 < m' := by
        rcases Nat.eq_zero_or_pos m' with rfl | pos
        · simp [nonzero.symm] at right
        · exact pos
      have magnitude : (0 : ℚ) < m * 2 ^ e := by positivity
      have magnitude' : (0 : ℚ) < m' * 2 ^ e' := by positivity
      cases negative <;> cases negative'
      all_goals simp only [Bool.false_eq_true, if_true, if_false] at left right
      · obtain ⟨rfl, rfl⟩ := fits.unique fits' pos pos' (left.trans right.symm)
        rfl
      · linarith
      · linarith
      · obtain ⟨rfl, rfl⟩ := fits.unique fits' pos pos' (neg_inj.mp (left.trans right.symm))
        rfl

end Binary64

end ContactSearch
