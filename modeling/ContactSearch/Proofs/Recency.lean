import ContactSearch.Proofs.Calendar.Days
import ContactSearch.Recency

/-!
# Spans of days that have a start

A span of days before now has a start exactly when it is one that is counted and the clock, set back
by it, would show a day of the calendar. After the first year that is so of every span of up to a
year. Where a span has no start, the reason is one of the two; where it has one, what lies within the
span is what has happened since then.
-/

namespace ContactSearch.Recency

open Calendar

variable {now created : Timestamp}

theorem exists_cutoff_iff {days : Int} :
    (∃ start, cutoff now days = .ok start) ↔ days.natAbs ≤ maxDays ∧
      days * dayLength ≤ now.clock ∧
      (now.clock : Int) - days * dayLength < (dayCount * dayLength : Nat) := by
  unfold cutoff
  by_cases long : maxDays < days.natAbs
  · rw [if_pos long]
    simp [Nat.not_le.mpr long]
  · rw [if_neg long, ← Int.sub_nonneg (a := (now.clock : Int))]
    by_cases inside : 0 ≤ (now.clock : Int) - days * dayLength ∧
        (now.clock : Int) - days * dayLength < (dayCount * dayLength : Nat)
    · simp only [if_pos inside]
      exact ⟨fun _ => ⟨Nat.le_of_not_lt long, inside⟩, fun _ => ⟨_, rfl⟩⟩
    · simp only [if_neg inside, reduceCtorEq, exists_false, false_iff]
      exact fun ⟨_, shown⟩ => inside shown

theorem eq_of_cutoff {days start : Int} (found : cutoff now days = .ok start) :
    start = now.instant - days * dayLength := by
  unfold cutoff at found
  by_cases long : maxDays < days.natAbs
  · rw [if_pos long] at found
    cases found
  · rw [if_neg long] at found
    dsimp only at found
    split at found
    · exact (Except.ok.inj found).symm
    · cases found

/-- A span of up to a year has a start, unless the clock shows the first year. -/
theorem exists_cutoff_of_short (late : 2 ≤ now.date.year) {days : Nat} (short : days ≤ 365) :
    ∃ start, cutoff now days = .ok start := by
  have span : days * dayLength ≤ 365 * dayLength := Nat.mul_le_mul_right _ short
  have year := now.year_le_clock late
  have inside := now.clock_lt
  rw [exists_cutoff_iff, Int.natAbs_natCast, maxDays, ← Nat.cast_mul]
  omega

/-- Why the span of so many days before now has no start: it is longer than any that is counted, or
else no clock shows the time that far back. -/
inductive HasNoStart (now : Timestamp) (days : Int) : RecencyError → Prop
  | tooLong (long : 999999999 < days.natAbs) : HasNoStart now days (.tooManyDays days)
  | outside (counted : days.natAbs ≤ 999999999)
    (gone : ∀ t : Timestamp, (t.clock : Int) ≠ now.clock - days * dayLength) :
    HasNoStart now days .outsideCalendar

theorem cutoff_eq_error_iff {days : Int} {e : RecencyError} :
    cutoff now days = .error e ↔ HasNoStart now days e := by
  unfold cutoff
  by_cases long : maxDays < days.natAbs
  · rw [if_pos long]
    constructor
    · intro refused
      cases refused
      exact .tooLong long
    · intro missing
      cases missing with
      | tooLong => rfl
      | outside counted => exact absurd long (Nat.not_lt.mpr counted)
  · rw [if_neg long]
    by_cases inside : 0 ≤ (now.clock : Int) - days * dayLength ∧
        (now.clock : Int) - days * dayLength < (dayCount * dayLength : Nat)
    · simp only [if_pos inside, reduceCtorEq, false_iff]
      intro missing
      cases missing with
      | tooLong tooLong => exact long tooLong
      | outside _ gone =>
        obtain ⟨t, shown⟩ := Timestamp.exists_clock_iff.mpr inside
        exact gone t shown
    · simp only [if_neg inside, Except.error.injEq]
      constructor
      · intro refused
        subst refused
        exact .outside (Nat.le_of_not_lt long) fun t shown =>
          inside (Timestamp.exists_clock_iff.mp ⟨t, shown⟩)
      · intro missing
        cases missing with
        | tooLong tooLong => exact absurd tooLong long
        | outside => rfl

/-! ## What lies within a span -/

theorem within_eq_error_iff {days : Int} {e : RecencyError} :
    within now days created = .error e ↔ HasNoStart now days e := by
  rw [← cutoff_eq_error_iff, within]
  cases cutoff now days with
  | error e' => simp [bind, Except.bind]
  | ok start => simp [bind, Except.bind, pure, Except.pure]

/-- A span that has a start reaches back to that moment, which is still recent. -/
theorem recent_iff {days : Int} {recent : Bool} (answered : within now days created = .ok recent) :
    recent = true ↔ now.instant - days * dayLength ≤ created.instant := by
  cases found : cutoff now days with
  | error e =>
    rw [within, found] at answered
    cases answered
  | ok start =>
    rw [within, found] at answered
    cases answered
    rw [decide_eq_true_iff, eq_of_cutoff found]

end ContactSearch.Recency
