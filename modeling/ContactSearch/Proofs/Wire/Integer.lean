import ContactSearch.Proofs.Json.Numeral
import ContactSearch.Proofs.Text.Numeral
import ContactSearch.Proofs.Traversal
import ContactSearch.Wire.Integer

/-!
# Integers in text are read back

An integer that was read from text has no more digits than are read, so its own decimal text is read
as that integer again.
-/

namespace ContactSearch.Wire

open Json (digitsValue)
open Text

/-! ## Digits -/

theorem mapM_asciiDigit?_eq_some_iff {s : List Char} {ds : List Nat} :
    s.mapM asciiDigit? = some ds ↔
      (∀ c ∈ s, c.isDigit = true) ∧ (s.map fun c => c.toNat - 48) = ds := by
  induction s generalizing ds with
  | nil => simp
  | cons c s ih =>
    simp only [List.mapM_cons, Option.bind_eq_bind, Option.bind_eq_some_iff, asciiDigit?_eq_some_iff,
      ih, List.forall_mem_cons, List.map_cons]
    constructor
    · rintro ⟨d, ⟨digit, rfl⟩, ds, ⟨digits, rfl⟩, same⟩
      exact ⟨⟨digit, digits⟩, Option.some.inj same⟩
    · rintro ⟨⟨digit, digits⟩, rfl⟩
      exact ⟨_, ⟨digit, rfl⟩, _, ⟨digits, rfl⟩, rfl⟩

theorem plainDigits?_eq_some_iff {s : List Char} {ds : List Nat} :
    plainDigits? s = some ds ↔ s ≠ [] ∧ (∀ c ∈ s, c.isDigit = true) ∧
      (s.map fun c => c.toNat - 48) = ds := by
  unfold plainDigits?
  by_cases none : s = []
  · simp [none]
  · rw [if_neg (by simpa using none), mapM_asciiDigit?_eq_some_iff]
    simp [none]

/-! ## Numerals -/

theorem readPlainNat_natText {n : Nat} (short : (natText n).length ≤ maxDigits) :
    readPlainNat (natText n) = .ok n := by
  have plain : plainDigits? (natText n) = some ((natText n).map fun c => c.toNat - 48) :=
    plainDigits?_eq_some_iff.mpr
      ⟨natText_ne_nil n, fun c member => isDigit_of_mem_natText member, rfl⟩
  have value : ofDigits ((natText n).map fun c => c.toNat - 48) = n := digitsValue_natText n
  have front : ¬ (((natText n).map fun c => c.toNat - 48).head? = some 0 ∧
      1 < (natText n).length) := by
    rintro ⟨zero, long⟩
    rw [List.head?_map] at zero
    obtain ⟨c, first, low⟩ := Option.map_eq_some_iff.mp zero
    have digit := toNat_of_isDigit (isDigit_of_mem_natText (List.mem_of_mem_head? first))
    have code : c.toNat = '0'.toNat := Nat.le_antisymm (Nat.sub_eq_zero_iff_le.mp low) digit.1
    rw [Char.toNat_inj.mp code] at first
    rw [(Json.isWhole_natText n).head first] at long
    exact absurd long (by decide)
  rw [readPlainNat, plain]
  simp only [List.length_map, if_neg front, if_neg (Nat.not_lt.mpr short), value]

/-- A number that was read has no more digits than are read. -/
theorem length_natText_of_readPlainNat {s : List Char} {n : Nat} (read : readPlainNat s = .ok n) :
    (natText n).length ≤ maxDigits := by
  unfold readPlainNat at read
  split at read
  · cases read
  · rename_i digits plain
    obtain ⟨-, each, rfl⟩ := plainDigits?_eq_some_iff.mp plain
    split_ifs at read with zero long
    cases read
    rw [List.length_map] at long
    rw [length_natText_le_iff (by decide)]
    calc digitsValue s < 10 ^ s.length := digitsValue_lt each
      _ ≤ 10 ^ maxDigits := Nat.pow_le_pow_right (by decide) (Nat.not_lt.mp long)

theorem readPlain_intText {n : Int} (short : IsShort n) : readPlain (intText n) = .ok n := by
  unfold intText
  by_cases negative : n < 0
  · rw [if_pos negative, readPlain, readPlainNat_natText short]
    show Except.ok (-(n.natAbs : Int)) = .ok n
    rw [Int.ofNat_natAbs_of_nonpos (Int.le_of_lt negative), Int.neg_neg]
  · have unsigned : ∀ s, natText n.natAbs ≠ '-' :: s := by
      intro s text
      have digit := isDigit_of_mem_natText (text ▸ List.mem_cons_self)
      cases digit
    rw [if_neg negative, readPlain, readPlainNat_natText short]
    · exact congrArg Except.ok (Int.natAbs_of_nonneg (Int.not_lt.mp negative))
    · exact unsigned

theorem isShort_of_readPlain {s : List Char} {n : Int} (read : readPlain s = .ok n) :
    IsShort n := by
  unfold readPlain at read
  split at read
  · obtain ⟨m, natural, rfl⟩ := map_eq_ok.mp read
    obtain ⟨k, found, same⟩ := bind_eq_ok.mp natural
    cases same
    rw [IsShort, Int.natAbs_neg]
    exact length_natText_of_readPlainNat found
  · obtain ⟨k, found, rfl⟩ := map_eq_ok.mp read
    exact length_natText_of_readPlainNat found

/-- The text of an integer that is not too long is read as that integer. -/
theorem integerOfText_intText {n : Int} (short : IsShort n) : integerOfText (intText n) = .ok n := by
  rw [integerOfText, readPlain_intText short]

/-- However an integer stood in a text, it is not too long. -/
theorem isShort_of_integerOfText {s : List Char} {n : Int} (read : integerOfText s = .ok n) :
    IsShort n := by
  unfold integerOfText at read
  split at read
  · split at read
    · exact isShort_of_readPlain read
    · cases read
  · exact isShort_of_readPlain read

end ContactSearch.Wire
