import ContactSearch.Text.Case
import ContactSearch.Text.Word
import Mathlib.Data.List.Basic

/-!
# Folding onto ASCII

Which characters equal an ASCII character when case is ignored. Apart from the ASCII characters
themselves there are four: the capital I with a dot, the small dotless i, the long s and the kelvin
sign. All of them are word characters, so a word of ASCII letters that is found in a text ignoring
case consists of word characters there too.
-/

namespace ContactSearch.Text

/-- A run of capitals beyond ASCII, the two that reach back into ASCII apart, has its lower-case
forms beyond ASCII as well and among the characters. -/
private def staysBeyond (r : CaseRun) : Bool :=
  let first : Int := r.first + r.shift
  let last : Int := r.last + r.shift
  128 ≤ first && (last < 0xD800 || 0xDFFF < first && last < 0x110000)

private theorem staysBeyond_or_ascii :
    caseRuns.all (fun r => staysBeyond r || r.first == r.last &&
      (r.first == 0x130 || r.first == 0x212A)) = true := by
  decide

/-- No capital has the dotless i or the long s as its lower-case form. -/
private theorem not_reached :
    caseRuns.all (fun r => [0x131, 0x17F].all fun n =>
      !(decide ((r.first : Int) + r.shift ≤ n) && decide ((n : Int) ≤ r.last + r.shift))) = true := by
  decide

private theorem ascii_of_foldPairs :
    foldPairs.all (fun p => decide (128 ≤ p.2 ∧ p.2 < 0xD800 ∨ 0xDFFF < p.2 ∧ p.2 < 0x110000) ||
      p.1 == 0x131 || p.1 == 0x17F) = true := by
  decide

/-- A capital lies in one of the runs, and a character that lies in none keeps its code. -/
theorem lowerShift_cases (n : Nat) :
    lowerShift n = 0 ∨ ∃ r ∈ caseRuns, r.first ≤ n ∧ n ≤ r.last ∧ lowerShift n = r.shift := by
  unfold lowerShift
  split
  · rename_i r found
    have holds := List.find?_some found
    simp only [Bool.and_eq_true, decide_eq_true_eq] at holds
    exact .inr ⟨r, List.mem_of_find?_eq_some found, holds.1.1, holds.1.2, rfl⟩
  · exact .inl rfl

private theorem mem_of_lookup {pairs : List (Nat × Nat)} {k n : Nat}
    (found : pairs.lookup k = some n) : (k, n) ∈ pairs := by
  induction pairs with
  | nil => cases found
  | cons p pairs ih =>
    obtain ⟨k', n'⟩ := p
    rw [List.lookup_cons] at found
    split at found
    · rename_i same
      cases found
      rw [beq_iff_eq.mp same]
      exact List.mem_cons_self
    · exact List.mem_cons_of_mem _ (ih found)

private theorem toNat_ofNat {n : Nat} (valid : n < 0xD800 ∨ 0xDFFF < n ∧ n < 0x110000) :
    (Char.ofNat n).toNat = n := by
  have ok : n.isValidChar := valid
  rw [Char.ofNat, dif_pos ok]
  rfl

/-- The lower-case form of a character beyond ASCII lies beyond ASCII, unless the character is one
of two. -/
theorem lowerChar_of_beyond {c : Char} (beyond : 128 ≤ c.toNat) :
    (c = '\u0130' ∨ c = '\u212A') ∨
      (128 ≤ (lowerChar c).toNat ∧
        (lowerChar c = c ∨ ∃ r ∈ caseRuns, (r.first : Int) + r.shift ≤ (lowerChar c).toNat ∧
          ((lowerChar c).toNat : Int) ≤ r.last + r.shift)) := by
  have unfolded : lowerChar c = Char.ofNat (c.toNat + lowerShift c.toNat).toNat := by
    simp [lowerChar, Nat.not_lt.mpr beyond]
  rcases lowerShift_cases c.toNat with none | ⟨r, member, above, below, shift⟩
  · have same : lowerChar c = c := by simp [unfolded, none]
    exact .inr ⟨by rw [same]; exact beyond, .inl same⟩
  · have kind := List.all_eq_true.mp staysBeyond_or_ascii r member
    rw [shift] at unfolded
    simp only [staysBeyond, Bool.or_eq_true, Bool.and_eq_true, decide_eq_true_eq,
      beq_iff_eq] at kind
    rcases kind with ⟨far, valid⟩ | ⟨single, first⟩
    · have code : (lowerChar c).toNat = (c.toNat + r.shift).toNat := by
        rw [unfolded]
        apply toNat_ofNat
        omega
      exact .inr ⟨by omega, .inr ⟨r, member, by omega, by omega⟩⟩
    · left
      have same : c.toNat = r.first := by omega
      rcases first with first | first
      · exact .inl (Char.toNat_inj.mp (by rw [same, first]; rfl))
      · exact .inr (Char.toNat_inj.mp (by rw [same, first]; rfl))

/-- The characters that equal an ASCII character when case is ignored. -/
theorem eq_of_fold_ascii {c : Char} (ascii : (fold c).toNat < 128) :
    c.toNat < 128 ∨ c = '\u0130' ∨ c = '\u212A' ∨ c = '\u0131' ∨ c = '\u017F' := by
  by_cases beyond : 128 ≤ c.toNat
  · rcases lowerChar_of_beyond beyond with (dotted | kelvin) | ⟨far, origin⟩
    · exact .inr (.inl dotted)
    · exact .inr (.inr (.inl kelvin))
    · simp only [fold, if_neg (Nat.not_lt.mpr far)] at ascii
      cases found : foldPairs.lookup (lowerChar c).toNat with
      | none =>
        simp only [found] at ascii
        omega
      | some n =>
        simp only [found] at ascii
        have member : ((lowerChar c).toNat, n) ∈ foldPairs := mem_of_lookup found
        have kind := List.all_eq_true.mp ascii_of_foldPairs _ member
        simp only [Bool.or_eq_true, decide_eq_true_eq, beq_iff_eq, or_assoc] at kind
        have key : (lowerChar c).toNat = 0x131 ∨ (lowerChar c).toNat = 0x17F := by
          rcases kind with ⟨low, valid⟩ | ⟨high, valid⟩ | key
          · rw [toNat_ofNat (.inl valid)] at ascii
            omega
          · rw [toNat_ofNat (.inr ⟨high, valid⟩)] at ascii
            omega
          · exact key
        rcases origin with same | ⟨r, run, above, below⟩
        · rw [same] at key
          rcases key with key | key
          · exact .inr (.inr (.inr (.inl (Char.toNat_inj.mp key))))
          · exact .inr (.inr (.inr (.inr (Char.toNat_inj.mp key))))
        · have unreached := List.all_eq_true.mp not_reached r run
          simp only [List.all_cons, List.all_nil, Bool.and_true, Bool.and_eq_true,
            Bool.not_eq_true', Bool.and_eq_false_iff, decide_eq_false_iff_not] at unreached
          omega
  · exact .inl (Nat.lt_of_not_le beyond)

/-- A character that equals an ASCII character is a word character together with it. -/
theorem isWordChar_fold {c : Char} (ascii : (fold c).toNat < 128) :
    isWordChar (fold c) = isWordChar c := by
  have low : ∀ n < 128, isWordChar (fold (Char.ofNat n)) = isWordChar (Char.ofNat n) := by
    decide
  rcases eq_of_fold_ascii ascii with below | rfl | rfl | rfl | rfl
  · have known := low c.toNat below
    rwa [Char.ofNat_toNat] at known
  all_goals decide +kernel

/-- What equals an ASCII letter when case is ignored is a word character. -/
theorem isWordChar_of_fold_isAlpha {c : Char} (letter : (fold c).isAlpha = true) :
    isWordChar c = true := by
  have below : (fold c).val ≤ 'z'.val := by
    rcases Bool.or_eq_true_iff.mp letter with upper | lower
    · exact UInt32.le_trans (of_decide_eq_true upper).2 (by decide)
    · exact of_decide_eq_true (Bool.and_eq_true_iff.mp lower).2
  have ascii : (fold c).toNat < 128 :=
    Nat.lt_of_le_of_lt (UInt32.le_iff_toNat_le.mp below) (by decide)
  rw [← isWordChar_fold ascii]
  exact isWordChar_of_isAlphanum (Bool.or_eq_true_iff.mpr (.inl letter)) ascii

end ContactSearch.Text
