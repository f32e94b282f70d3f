import ContactSearch.Json.Reader
import ContactSearch.Number.Format
import Mathlib.Algebra.Order.Ring.Nat
import Mathlib.Data.List.TakeWhile

/-!
# Digits

The decimal text of a natural number is a run of digits that stands for the number again, with no
zero in front. Zeros at the end of digits multiply by ten; zeros in front change nothing.
-/

namespace ContactSearch

open Json (digitsValue splitDigits)
open Text (natText)

/-! ## The value of digits -/

theorem digitsValue_eq_ofDigitChars (ds : List Char) :
    digitsValue ds = Nat.ofDigitChars 10 ds 0 := by
  rw [digitsValue, Text.ofDigits, List.foldl_map, Nat.ofDigitChars_eq_foldl]
  rfl

theorem digitsValue_append (ds es : List Char) :
    digitsValue (ds ++ es) = digitsValue ds * 10 ^ es.length + digitsValue es := by
  simp only [digitsValue_eq_ofDigitChars, Nat.ofDigitChars_append]
  rw [Nat.ofDigitChars_eq_ofDigitChars_zero, Nat.mul_comm]

theorem digitsValue_zeros (n : Nat) : digitsValue (List.replicate n '0') = 0 := by
  rw [digitsValue_eq_ofDigitChars, Nat.ofDigitChars_replicate_zero, Nat.mul_zero]

/-- Zeros in front change nothing. -/
theorem digitsValue_zeros_append (n : Nat) (ds : List Char) :
    digitsValue (List.replicate n '0' ++ ds) = digitsValue ds := by
  rw [digitsValue_append, digitsValue_zeros, Nat.zero_mul, Nat.zero_add]

/-- Zeros at the end multiply by ten. -/
theorem digitsValue_append_zeros (ds : List Char) (n : Nat) :
    digitsValue (ds ++ List.replicate n '0') = digitsValue ds * 10 ^ n := by
  rw [digitsValue_append, digitsValue_zeros, List.length_replicate, Nat.add_zero]

theorem digitsValue_cons_zero (ds : List Char) : digitsValue ('0' :: ds) = digitsValue ds :=
  digitsValue_zeros_append 1 ds

/-- Digits stand for less than any longer number. -/
theorem digitsValue_lt {ds : List Char} (digits : ∀ c ∈ ds, c.isDigit = true) :
    digitsValue ds < 10 ^ ds.length := by
  induction ds with
  | nil => decide
  | cons c ds ih =>
    have value : digitsValue [c] ≤ 9 := by
      have bounds := digits c List.mem_cons_self
      simp only [Char.isDigit, Bool.and_eq_true, decide_eq_true_eq,
        UInt32.le_iff_toNat_le] at bounds
      have upper : c.toNat ≤ 57 := bounds.2
      show 10 * 0 + (c.toNat - 48) ≤ 9
      omega
    have rest := ih fun d member => digits d (List.mem_cons_of_mem _ member)
    rw [← List.singleton_append, digitsValue_append, List.length_append, List.length_singleton,
      Nat.pow_add]
    have scaled := Nat.mul_le_mul_right (10 ^ ds.length) value
    omega

/-! ## The text of a number -/

theorem digitsValue_natText (n : Nat) : digitsValue (natText n) = n := by
  rw [digitsValue_eq_ofDigitChars, natText, Nat.ofDigitChars_ten_toDigits]

theorem isDigit_of_mem_natText {n : Nat} {c : Char} (member : c ∈ natText n) : c.isDigit = true :=
  Nat.isDigit_of_mem_toDigits (by decide) (by decide) member

theorem natText_ne_nil (n : Nat) : natText n ≠ [] :=
  Nat.toDigits_ne_nil

theorem natText_mul_ten {n : Nat} (pos : 0 < n) : natText (n * 10) = natText n ++ ['0'] := by
  have appended := Nat.toDigits_append_toDigits (b := 10) (d := 0) (by decide) pos (by decide)
  rw [Nat.toDigits_of_lt_base (n := 0) (by decide), Nat.add_zero, Nat.mul_comm] at appended
  exact appended.symm

theorem natText_mul_pow {n : Nat} (pos : 0 < n) (k : Nat) :
    natText (n * 10 ^ k) = natText n ++ List.replicate k '0' := by
  induction k with
  | zero => simp
  | succ k ih =>
    rw [Nat.pow_succ, ← Nat.mul_assoc, natText_mul_ten (Nat.mul_pos pos (Nat.pow_pos (by decide))),
      ih, List.append_assoc, ← List.replicate_succ']

theorem length_natText_mul_pow {n : Nat} (pos : 0 < n) (k : Nat) :
    (natText (n * 10 ^ k)).length = (natText n).length + k := by
  rw [natText_mul_pow pos, List.length_append, List.length_replicate]

private theorem head?_append_of_ne_nil {ds es : List Char} (nonempty : ds ≠ []) :
    (ds ++ es).head? = ds.head? := by
  rw [List.head?_append, List.head?_eq_some_head nonempty, Option.some_or]

/-- The text of a positive number does not start with a zero. -/
theorem head?_natText_ne_zero {n : Nat} (pos : 0 < n) : (natText n).head? ≠ some '0' := by
  induction n using Nat.base_induction 10 (by decide) with
  | single n small =>
    rw [natText, Nat.toDigits_of_lt_base small]
    simpa using pos.ne'
  | digit n last small front_pos ih =>
    rw [natText, ← Nat.toDigits_append_toDigits (by decide) front_pos small]
    rw [head?_append_of_ne_nil Nat.toDigits_ne_nil]
    exact ih front_pos

/-- Texts of fewer digits stand for less. -/
theorem length_natText_le_iff {n k : Nat} (pos : 0 < k) :
    (natText n).length ≤ k ↔ n < 10 ^ k :=
  Nat.length_toDigits_le_iff (by decide) pos

theorem length_natText_pos (n : Nat) : 0 < (natText n).length :=
  Nat.length_toDigits_pos

/-! ## Significant digits -/

namespace NumberFormat

theorem exists_significant (n : Nat) :
    ∃ k, natText n = significant n ++ List.replicate k '0' := by
  refine ⟨((natText n).reverse.takeWhile (· == '0')).length, ?_⟩
  have zeros : (natText n).reverse.takeWhile (· == '0') =
      List.replicate ((natText n).reverse.takeWhile (· == '0')).length '0' := by
    apply List.eq_replicate_of_mem
    intro c member
    simpa using List.mem_takeWhile_imp member
  have halves := List.takeWhile_append_dropWhile (p := (· == '0')) (l := (natText n).reverse)
  rw [significant, ← List.reverse_replicate, ← zeros, ← List.reverse_append, halves,
    List.reverse_reverse]

/-- The significant digits of a positive number, and how many zeros follow them. -/
structure IsSignificant (n : Nat) (ds : List Char) (zeros : Nat) : Prop where
  text : natText n = ds ++ List.replicate zeros '0'
  digits : ∀ c ∈ ds, c.isDigit = true
  head : ds.head? ≠ some '0'
  nonempty : ds ≠ []
  value : digitsValue ds * 10 ^ zeros = n

theorem exists_isSignificant {n : Nat} (pos : 0 < n) :
    ∃ zeros, IsSignificant n (significant n) zeros := by
  obtain ⟨zeros, text⟩ := exists_significant n
  have value : digitsValue (significant n) * 10 ^ zeros = n := by
    rw [← digitsValue_append_zeros, ← text, digitsValue_natText]
  have nonempty : significant n ≠ [] := by
    intro empty
    rw [empty] at value
    have zero : n = 0 := by rw [← value]; exact Nat.zero_mul _
    omega
  refine ⟨zeros, text, ?_, ?_, nonempty, value⟩
  · intro c member
    exact isDigit_of_mem_natText (n := n) (by rw [text]; exact List.mem_append_left _ member)
  · have head := head?_natText_ne_zero pos
    rwa [text, head?_append_of_ne_nil nonempty] at head

end NumberFormat

end ContactSearch
