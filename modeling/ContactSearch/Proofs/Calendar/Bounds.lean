import ContactSearch.Calendar.Timestamp
import Mathlib.Tactic.IntervalCases

/-!
# Bounds of the calendar

Every date has its number among the days of the calendar, and every date after the first year has a
whole year of days before it. So what a clock shows lies in the calendar, and after the first year
it is a year or more from its start.
-/

namespace ContactSearch.Calendar

/-- The number of days in a year. -/
def yearLength (year : Nat) : Nat :=
  if isLeap year then 366 else 365

theorem daysBeforeYear_succ {year : Nat} (pos : 1 ≤ year) :
    daysBeforeYear (year + 1) = daysBeforeYear year + yearLength year := by
  obtain ⟨past, rfl⟩ := Nat.exists_eq_add_of_le' pos
  have centuries : past / 100 ≤ past / 4 := Nat.div_le_div_left (by omega) (by omega)
  have centuries' : (past + 1) / 100 ≤ (past + 1) / 4 := Nat.div_le_div_left (by omega) (by omega)
  have rule : isLeap (past + 1) = true ↔
      4 ∣ past + 1 ∧ (¬ 100 ∣ past + 1 ∨ 400 ∣ past + 1) := by
    simp [isLeap, Nat.dvd_iff_mod_eq_zero]
  have four : 100 ∣ past + 1 → 4 ∣ past + 1 := Nat.dvd_trans (by decide)
  have hundred : 400 ∣ past + 1 → 100 ∣ past + 1 := Nat.dvd_trans (by decide)
  simp only [daysBeforeYear, yearLength, Nat.add_sub_cancel, Nat.succ_div, rule] at centuries' ⊢
  split_ifs at centuries' ⊢ <;> omega

theorem daysBeforeYear_mono {a b : Nat} (pos : 1 ≤ a) (le : a ≤ b) :
    daysBeforeYear a ≤ daysBeforeYear b := by
  induction b, le using Nat.le_induction with
  | base => exact Nat.le_refl _
  | succ b le ih =>
    rw [daysBeforeYear_succ (Nat.le_trans pos le)]
    exact Nat.le_add_right_of_le ih

/-- No month reaches beyond its year. -/
theorem daysBeforeMonth_add_daysInMonth_le (year : Nat) {month : Nat} (first : 1 ≤ month)
    (last : month ≤ 12) : daysBeforeMonth year month + daysInMonth year month ≤ yearLength year := by
  unfold yearLength
  by_cases leap : isLeap year = true
  · interval_cases month <;> simp [daysBeforeMonth, daysInMonth, leap, List.range']
  · interval_cases month <;> simp [daysBeforeMonth, daysInMonth, leap, List.range']

namespace Date

theorem number_lt_next_year (d : Date) : d.number < daysBeforeYear (d.year + 1) := by
  obtain ⟨year, -, month, months, day, days⟩ := d.isDate
  have within := daysBeforeMonth_add_daysInMonth_le d.year month months
  rw [daysBeforeYear_succ year, number]
  omega

theorem number_lt (d : Date) : d.number < dayCount :=
  calc d.number < daysBeforeYear (d.year + 1) := d.number_lt_next_year
    _ ≤ daysBeforeYear 10000 := daysBeforeYear_mono (Nat.le_add_left 1 _) (Nat.succ_le_succ d.isDate.2.1)
    _ = dayCount := rfl

theorem year_le_number {d : Date} (late : 2 ≤ d.year) : 365 ≤ d.number :=
  calc 365 = daysBeforeYear 2 := rfl
    _ ≤ daysBeforeYear d.year := daysBeforeYear_mono (by decide) late
    _ ≤ d.number := by unfold number; omega

end Date

namespace Timestamp

theorem clock_lt (t : Timestamp) : t.clock < dayCount * dayLength := by
  have date := t.date.number_lt
  have time := t.time.number_lt
  calc t.clock < t.date.number * dayLength + dayLength := Nat.add_lt_add_left time _
    _ = (t.date.number + 1) * dayLength := (Nat.succ_mul _ _).symm
    _ ≤ dayCount * dayLength := Nat.mul_le_mul_right _ date

theorem year_le_clock {t : Timestamp} (late : 2 ≤ t.date.year) : 365 * dayLength ≤ t.clock :=
  calc 365 * dayLength ≤ t.date.number * dayLength :=
        Nat.mul_le_mul_right _ (Date.year_le_number late)
    _ ≤ t.clock := Nat.le_add_right _ _

end Timestamp

end ContactSearch.Calendar
