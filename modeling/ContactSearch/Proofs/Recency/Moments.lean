import ContactSearch.Proofs.Calendar.Order
import ContactSearch.Proofs.Recency

/-!
# Recency compares moments

Whether something happened within so many days before now is a comparison of two moments, counted in
microseconds day by day of the calendar. So it does not matter with which offsets the two timestamps
are written, as long as the span has a start; what is recent stays recent over a longer span; and an
age in days is the number of whole days between the moments.
-/

namespace ContactSearch.Recency

open Calendar

variable {now created : Timestamp}

/-- An age in days is the greatest number of days that are over. -/
theorem ageInDays_eq_iff {n : Int} : ageInDays now created = n ↔
    n * dayLength ≤ now.instant - created.instant ∧
      now.instant - created.instant < (n + 1) * dayLength := by
  have whole : (0 : Int) ≤ dayLength := Int.natCast_nonneg _
  rw [ageInDays, Int.fdiv_eq_ediv_of_nonneg _ whole]
  simp only [dayLength, secondLength]
  omega

theorem dayLength_eq : (dayLength : Int) = 86400 * 10 ^ 6 := by
  decide

/-- Recency and age of something that happened at one moment, seen from another one. -/
structure ComparesMoments (now created : Timestamp) : Prop where
  /-- There is an answer exactly where the span has a start. -/
  fails : ∀ days e, within now days created = .error e ↔ HasNoStart now days e
  /-- Something is recent from the start of the span on. -/
  recent : ∀ days recent, within now days created = .ok recent →
    (recent = true ↔ now.sinceStart - days * (86400 * 10 ^ 6) ≤ created.sinceStart)
  /-- What is recent is so over any longer span. -/
  longer : ∀ days more recent, days ≤ more → within now days created = .ok true →
    within now more created = .ok recent → recent = true
  /-- The age is the number of whole days between the moments. -/
  age : ∀ n, ageInDays now created = n ↔
    n * (86400 * 10 ^ 6) ≤ now.sinceStart - created.sinceStart ∧
      now.sinceStart - created.sinceStart < (n + 1) * (86400 * 10 ^ 6)

theorem comparesMoments (now created : Timestamp) : ComparesMoments now created where
  fails := fun _ _ => within_eq_error_iff
  recent := by
    intro days recent answered
    rw [recent_iff answered, dayLength_eq, now.instant_eq_sinceStart, created.instant_eq_sinceStart]
  longer := by
    intro days more recent le short long
    have start := (recent_iff short).mp rfl
    have earlier : days * dayLength ≤ more * dayLength :=
      Int.mul_le_mul_of_nonneg_right le (Int.natCast_nonneg _)
    exact (recent_iff long).mpr (by omega)
  age := by
    intro n
    rw [ageInDays_eq_iff, dayLength_eq, now.instant_eq_sinceStart, created.instant_eq_sinceStart]

/-- Recency and age are told by comparing moments, and timestamps of the same moments, with whatever
offsets they are written, are told the same. -/
theorem recency_comparesMoments (now created : Timestamp) : ComparesMoments now created ∧
    ∀ now' created' : Timestamp, now'.sinceStart = now.sinceStart →
      created'.sinceStart = created.sinceStart →
      (∀ days recent recent', within now days created = .ok recent →
        within now' days created' = .ok recent' → recent' = recent) ∧
      ageInDays now' created' = ageInDays now created ∧
      ageText now' created' = ageText now created := by
  refine ⟨comparesMoments now created, ?_⟩
  intro now' created' sameNow sameCreated
  have age : ageInDays now' created' = ageInDays now created := by
    rw [(comparesMoments now' created').age, sameNow, sameCreated, ← (comparesMoments now created).age]
  refine ⟨?_, age, ?_⟩
  · intro days recent recent' answered answered'
    rw [Bool.eq_iff_iff, (comparesMoments now created).recent days recent answered,
      (comparesMoments now' created').recent days recent' answered', sameNow, sameCreated]
  · rw [ageText, ageText, age]

end ContactSearch.Recency
