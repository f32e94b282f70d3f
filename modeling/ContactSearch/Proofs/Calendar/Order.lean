import ContactSearch.Proofs.Calendar.Days
import Mathlib.Data.Set.Card

/-!
# The order of days

Dates by year, month and day are in the order of their numbers, and no number is left out. So the
number of a date counts the dates before it, whatever leap years lie between, and a moment is found
by counting alone: the days before it, the time of the day, less what the clock is ahead of UTC.
-/

namespace ContactSearch.Calendar

theorem daysBeforeMonth_mono (year : Nat) {a b : Nat} (first : 1 ≤ a) (le : a ≤ b) :
    daysBeforeMonth year a ≤ daysBeforeMonth year b := by
  induction b, le using Nat.le_induction with
  | base => exact Nat.le_refl _
  | succ b le ih =>
    rw [daysBeforeMonth_succ year (Nat.le_trans first le)]
    exact Nat.le_add_right_of_le ih

namespace Date

/-- A date comes before another one: in an earlier year, in an earlier month of the same year, or on
an earlier day of the same month. -/
def IsBefore (d e : Date) : Prop :=
  d.year < e.year ∨ d.year = e.year ∧ (d.month < e.month ∨ d.month = e.month ∧ d.day < e.day)

theorem number_lt_of_isBefore {d e : Date} (before : d.IsBefore e) : d.number < e.number := by
  obtain ⟨-, -, month, -, day, days⟩ := d.isDate
  rcases before with earlier | ⟨year, earlier | ⟨same, earlier⟩⟩
  · calc d.number < daysBeforeYear (d.year + 1) := d.number_lt_next_year
      _ ≤ daysBeforeYear e.year := daysBeforeYear_mono (Nat.le_add_left 1 _) earlier
      _ ≤ e.number := by unfold number; omega
  · have months := daysBeforeMonth_mono d.year (Nat.le_add_left 1 d.month) earlier
    rw [daysBeforeMonth_succ d.year month] at months
    unfold number
    rw [← year]
    omega
  · unfold number
    rw [← year, ← same]
    omega

theorem isBefore_trichotomy (d e : Date) : d.IsBefore e ∨ d = e ∨ e.IsBefore d := by
  by_cases same : d.year = e.year ∧ d.month = e.month ∧ d.day = e.day
  · right; left
    cases d
    cases e
    simp only at same
    obtain ⟨rfl, rfl, rfl⟩ := same
    rfl
  · unfold IsBefore
    omega

theorem number_lt_number_iff {d e : Date} : d.number < e.number ↔ d.IsBefore e := by
  refine ⟨?_, number_lt_of_isBefore⟩
  intro less
  rcases isBefore_trichotomy d e with before | rfl | after
  · exact before
  · exact absurd less (Nat.lt_irrefl _)
  · exact absurd less (Nat.lt_asymm (number_lt_of_isBefore after))

theorem number_injective : Function.Injective number := by
  intro d e same
  rcases isBefore_trichotomy d e with before | equal | after
  · exact absurd same (Nat.ne_of_lt (number_lt_of_isBefore before))
  · exact equal
  · exact absurd same (Nat.ne_of_gt (number_lt_of_isBefore after))

/-- The number of a date is that of the dates before it. -/
theorem ncard_isBefore (d : Date) : {e : Date | e.IsBefore d}.ncard = d.number := by
  have numbers : number '' {e : Date | e.IsBefore d} = (Finset.range d.number : Set Nat) := by
    ext n
    simp only [Set.mem_image, Set.mem_ofPred_eq, Finset.coe_range, Set.mem_Iio]
    constructor
    · rintro ⟨e, before, rfl⟩
      exact number_lt_of_isBefore before
    · intro less
      obtain ⟨e, rfl⟩ := exists_number (Nat.lt_trans less d.number_lt)
      exact ⟨e, number_lt_number_iff.mp less, rfl⟩
  rw [← Set.ncard_image_of_injective _ number_injective, numbers, Set.ncard_coe_finset,
    Finset.card_range]

end Date

namespace Timestamp

/-- The microseconds from the start of the calendar in UTC to a moment, counted: 86 400 seconds for
each date before the one shown, then the time shown, less what the clock is ahead of UTC. A clock of
unknown offset is not ahead. -/
noncomputable def sinceStart (t : Timestamp) : Int :=
  {d : Date | d.IsBefore t.date}.ncard * (86400 * 10 ^ 6) +
    (((t.time.hour * 60 + t.time.minute) * 60 + t.time.second) * 10 ^ 6 + t.time.micro) -
    t.offset.elim 0 Offset.minutes * (60 * 10 ^ 6)

theorem instant_eq_sinceStart (t : Timestamp) : t.instant = t.sinceStart := by
  have ahead : (t.offset.getD .utc).minutes = t.offset.elim 0 Offset.minutes := by
    cases t.offset <;> rfl
  rw [sinceStart, Date.ncard_isBefore, ← ahead, instant, clock, Time.number, Offset.length,
    dayLength, secondLength]
  push_cast
  omega

end Timestamp

end ContactSearch.Calendar
