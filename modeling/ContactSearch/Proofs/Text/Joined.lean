import ContactSearch.Proofs.Text.Blanks
import ContactSearch.Proofs.Text.CaseFold

/-!
# Joined texts in lower case

Lower case looks beyond the character itself for one letter only: the sigma asks whether a letter
stands before it and none behind it. A space or any other blank ends both looks, so a text that is
put together with blanks in between is in lower case what its parts are.
-/

namespace ContactSearch.Text

/-- A character without a case that is not passed over either. What stands on one side of it is not
seen from the other side. -/
def hidesCase (c : Char) : Bool :=
  !isCased c && !isCaseIgnorable c

theorem hidesCase_iff {c : Char} :
    hidesCase c = true ↔ isCased c = false ∧ isCaseIgnorable c = false := by
  simp [hidesCase]

/-! ## Looking for a neighbour with a case -/

theorem startsCased_cons (c : Char) (s : List Char) :
    startsCased (c :: s) = if isCaseIgnorable c then startsCased s else isCased c := by
  rw [startsCased, List.dropWhile_cons]
  split
  · rfl
  · simp

theorem startsCased_of_hidesCase {c : Char} (hides : hidesCase c = true) (s : List Char) :
    startsCased (c :: s) = false := by
  obtain ⟨caseless, seen⟩ := hidesCase_iff.mp hides
  rw [startsCased_cons, seen, if_neg Bool.false_ne_true, caseless]

/-- A text that shows no case adds nothing to one in front of it. -/
theorem startsCased_append {t : List Char} (caseless : startsCased t = false) (s : List Char) :
    startsCased (s ++ t) = startsCased s := by
  induction s with
  | nil => exact caseless
  | cons c s ih => rw [List.cons_append, startsCased_cons, ih, startsCased_cons]

/-- Of the text before it, lower case needs to know only whether it shows a case. -/
theorem lowerFrom_congr {before before' : List Char}
    (same : startsCased before = startsCased before') (s : List Char) :
    lowerFrom before s = lowerFrom before' s := by
  induction s generalizing before before' with
  | nil => rfl
  | cons c s ih =>
    have next : startsCased (c :: before) = startsCased (c :: before') := by
      rw [startsCased_cons, startsCased_cons, same]
    rw [lowerFrom, lowerFrom, ih next, lowerAt, same, lowerAt]

theorem lowerFrom_append {t : List Char} (caseless : startsCased t = false)
    (before s : List Char) :
    lowerFrom before (s ++ t) = lowerFrom before s ++ lowerFrom (s.reverse ++ before) t := by
  induction s generalizing before with
  | nil => rfl
  | cons c s ih =>
    rw [List.cons_append, lowerFrom, lowerFrom, ih, lowerAt, startsCased_append caseless, ← lowerAt,
      List.reverse_cons, List.append_assoc, List.append_assoc, List.singleton_append]

/-! ## Joining -/

theorem lowerAt_of_hidesCase {c : Char} (hides : hidesCase c = true) (before after : List Char) :
    lowerAt before c after = [lowerChar c] := by
  have sigma : ¬ (c == 'Σ') = true := by
    intro same
    rw [beq_iff_eq.mp same] at hides
    exact absurd hides (by decide)
  have dotted : ¬ (c == 'İ') = true := by
    intro same
    rw [beq_iff_eq.mp same] at hides
    exact absurd hides (by decide)
  rw [lowerAt, if_neg sigma, if_neg dotted]

/-- Around a character that hides case, two texts are put into lower case each for itself. -/
theorem lower_append_cons {c : Char} (hides : hidesCase c = true) (s t : List Char) :
    lower (s ++ c :: t) = lower s ++ lowerChar c :: lower t := by
  have behind : startsCased (c :: (s.reverse ++ [])) = startsCased [] :=
    startsCased_of_hidesCase hides _
  rw [lower, lowerFrom_append (startsCased_of_hidesCase hides t), lowerFrom,
    lowerAt_of_hidesCase hides, lowerFrom_congr behind, List.singleton_append, lower, lower]

/-! ## Blanks -/

/-- Every blank hides case, and it stays as it is in lower case. -/
theorem hidesCase_of_isBlank {c : Char} (blank : isBlank c = true) :
    hidesCase c = true ∧ lowerChar c = c :=
  forall_isBlank (P := fun c => hidesCase c = true ∧ lowerChar c = c) (by decide +kernel) blank

theorem lower_append_space (s t : List Char) :
    lower (s ++ ' ' :: t) = lower s ++ ' ' :: lower t := by
  obtain ⟨hides, same⟩ := hidesCase_of_isBlank isBlank_space
  rw [lower_append_cons hides, same]

theorem lower_blanks_append {front : List Char} (blank : ∀ c ∈ front, isBlank c = true)
    (s : List Char) : lower (front ++ s) = front ++ lower s := by
  induction front with
  | nil => rfl
  | cons c front ih =>
    obtain ⟨hides, same⟩ := hidesCase_of_isBlank (blank c List.mem_cons_self)
    have later := ih fun d member => blank d (List.mem_cons_of_mem c member)
    have first := lower_append_cons hides [] (front ++ s)
    rw [lower_nil, List.nil_append, List.nil_append, same, later] at first
    exact first

theorem lower_append_blanks {back : List Char} (blank : ∀ c ∈ back, isBlank c = true)
    (s : List Char) : lower (s ++ back) = lower s ++ back := by
  cases back with
  | nil => rw [List.append_nil, List.append_nil]
  | cons c back =>
    obtain ⟨hides, same⟩ := hidesCase_of_isBlank (blank c List.mem_cons_self)
    have rest := lower_blanks_append (fun d member => blank d (List.mem_cons_of_mem c member)) []
    rw [List.append_nil, lower_nil, List.append_nil] at rest
    rw [lower_append_cons hides, same, rest]

end ContactSearch.Text
