/-!
# Ranges of code points

Character properties are given as lists of ranges in increasing order. The membership test stops
at the first range that lies beyond the code point.
-/

namespace ContactSearch.Text

/-- Membership in one of the ranges, which are listed in increasing order. -/
def inRanges : List (Nat × Nat) → Nat → Bool
  | [], _ => false
  | (first, last) :: more, n =>
    if n < first then false else if n ≤ last then true else inRanges more n

theorem inRanges_nil (n : Nat) : inRanges [] n = false := rfl

/-- A code point found in the ranges lies in one of them. -/
theorem exists_of_inRanges {rs : List (Nat × Nat)} {n : Nat} (h : inRanges rs n = true) :
    ∃ r ∈ rs, r.1 ≤ n ∧ n ≤ r.2 := by
  induction rs with
  | nil => simp [inRanges] at h
  | cons r rs ih =>
    obtain ⟨a, b⟩ := r
    simp only [inRanges] at h
    split at h
    · simp at h
    · split at h
      · exact ⟨(a, b), by simp, by omega, by assumption⟩
      · obtain ⟨r, hr, hn⟩ := ih h
        exact ⟨r, by simp [hr], hn⟩

end ContactSearch.Text
