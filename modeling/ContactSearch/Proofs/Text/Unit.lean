import ContactSearch.Text.Unit

/-!
# Units and characters

No character is a surrogate, and the units of a text join to the same text again.
-/

namespace ContactSearch.Text

theorem toNat_valid (c : Char) :
    c.toNat < 0xD800 ∨ 0xDFFF < c.toNat ∧ c.toNat < 0x110000 :=
  c.valid

/-- A character is no surrogate. -/
theorem toNat_not_surrogate (c : Char) :
    isHighSurrogate c.toNat = false ∧ isLowSurrogate c.toNat = false := by
  have valid := toNat_valid c
  simp only [isHighSurrogate, isLowSurrogate, Bool.and_eq_false_iff, decide_eq_false_iff_not]
  omega

theorem toNat_lt (c : Char) : c.toNat < 0x110000 := by
  have valid := toNat_valid c
  omega

theorem isSurrogate_toNat (c : Char) : isSurrogate c.toNat = false := by
  simp [isSurrogate, toNat_not_surrogate]

theorem ofCode_toNat (c : Char) : ofCode c.toNat = c := by
  rw [ofCode, isSurrogate_toNat, if_neg Bool.false_ne_true, Char.ofNat_toNat]

theorem splitUnits_of_lt {n : Nat} (small : n < 0x10000) : splitUnits n = [n] := by
  rw [splitUnits, if_pos small]

theorem lt_of_mem_splitUnits {n u : Nat} (valid : n < 0x110000) (member : u ∈ splitUnits n) :
    u < 0x10000 := by
  rw [splitUnits] at member
  split at member
  · rw [List.mem_singleton.mp member]
    assumption
  · simp only [List.mem_cons, List.not_mem_nil, or_false] at member
    omega

theorem joinUnits_pair {high low : Nat} {units : List Nat} (is_high : isHighSurrogate high = true)
    (is_low : isLowSurrogate low = true) :
    joinUnits (high :: low :: units) = Char.ofNat (joinPair high low) :: joinUnits units := by
  rw [joinUnits, is_high, is_low, Bool.true_and, if_pos rfl]

/-- The two units of a code point are a pair that stands for it. -/
theorem pair_of_le {n : Nat} (beyond : 0x10000 ≤ n) (valid : n < 0x110000) :
    isHighSurrogate (0xD800 + (n - 0x10000) / 0x400) = true ∧
      isLowSurrogate (0xDC00 + (n - 0x10000) % 0x400) = true ∧
      joinPair (0xD800 + (n - 0x10000) / 0x400) (0xDC00 + (n - 0x10000) % 0x400) = n := by
  unfold joinPair
  simp only [isHighSurrogate, isLowSurrogate, Bool.and_eq_true, decide_eq_true_eq]
  omega

/-- The units of a character in front give the character in front. -/
theorem joinUnits_splitUnits_append (c : Char) (units : List Nat) :
    joinUnits (splitUnits c.toNat ++ units) = c :: joinUnits units := by
  have no_surrogate := toNat_not_surrogate c
  have bound := toNat_lt c
  by_cases small : c.toNat < 0x10000
  · rw [splitUnits_of_lt small]
    cases units with
    | nil =>
      show [ofCode c.toNat] = [c]
      rw [ofCode_toNat]
    | cons u units =>
      rw [List.singleton_append, joinUnits, no_surrogate.1, Bool.false_and,
        if_neg Bool.false_ne_true, ofCode_toNat]
  · obtain ⟨high, low, joined⟩ := pair_of_le (Nat.not_lt.mp small) bound
    rw [splitUnits, if_neg small, List.cons_append, List.singleton_append,
      joinUnits_pair high low, joined, Char.ofNat_toNat]

/-- The units of a character in front leave none alone. -/
theorem hasLone_splitUnits_append (c : Char) (units : List Nat) :
    hasLone (splitUnits c.toNat ++ units) = hasLone units := by
  have no_surrogate := toNat_not_surrogate c
  by_cases small : c.toNat < 0x10000
  · rw [splitUnits_of_lt small]
    cases units with
    | nil => exact isSurrogate_toNat c
    | cons u units =>
      rw [List.singleton_append, hasLone, no_surrogate.1, Bool.false_and,
        if_neg Bool.false_ne_true, isSurrogate_toNat, Bool.false_or]
  · obtain ⟨high, low, -⟩ := pair_of_le (Nat.not_lt.mp small) (toNat_lt c)
    rw [splitUnits, if_neg small, List.cons_append, List.singleton_append, hasLone, high, low,
      Bool.true_and, if_pos rfl]

theorem hasLone_splitUnits (s : List Char) :
    hasLone (s.flatMap fun c => splitUnits c.toNat) = false := by
  induction s with
  | nil => rfl
  | cons c s ih => rw [List.flatMap_cons, hasLone_splitUnits_append, ih]

theorem any_isSurrogate_toNat (s : List Char) : (s.map Char.toNat).any isSurrogate = false := by
  rw [List.any_eq_false]
  intro n member
  obtain ⟨c, -, rfl⟩ := List.mem_map.mp member
  rw [isSurrogate_toNat]
  exact Bool.false_ne_true

theorem joinUnits_splitUnits (s : List Char) :
    joinUnits (s.flatMap fun c => splitUnits c.toNat) = s := by
  induction s with
  | nil => rfl
  | cons c s ih => rw [List.flatMap_cons, joinUnits_splitUnits_append, ih]

end ContactSearch.Text
