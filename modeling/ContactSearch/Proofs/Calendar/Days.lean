import ContactSearch.Proofs.Calendar.Bounds

/-!
# Day after day

The days of the calendar follow each other without a gap: after each day but the last comes the next
day of the month, the first day of the next month or that of the next year, and its number is the
next one. So every number of a day is that of a date, and all that a clock could show in the calendar
some clock shows.
-/

namespace ContactSearch.Calendar

theorem daysBeforeMonth_succ (year : Nat) {month : Nat} (first : 1 ≤ month) :
    daysBeforeMonth year (month + 1) = daysBeforeMonth year month + daysInMonth year month := by
  obtain ⟨past, rfl⟩ := Nat.exists_eq_add_of_le' first
  rw [daysBeforeMonth, daysBeforeMonth, Nat.add_sub_cancel, Nat.add_sub_cancel, List.range'_1_concat,
    List.foldl_append, List.foldl_cons, List.foldl_nil, Nat.add_comm 1 past]

/-- December ends the year. -/
theorem daysBeforeMonth_december (year : Nat) :
    daysBeforeMonth year 12 + daysInMonth year 12 = yearLength year := by
  unfold yearLength
  by_cases leap : isLeap year = true
  · simp [daysBeforeMonth, daysInMonth, leap, List.range']
  · simp [daysBeforeMonth, daysInMonth, leap, List.range']

theorem daysInMonth_pos (year month : Nat) : 1 ≤ daysInMonth year month := by
  unfold daysInMonth
  split
  · split <;> decide
  · split <;> decide

namespace Date

/-- The last day of December comes right before the next year. -/
theorem number_december {d : Date} (december : d.month = 12)
    (last : d.day = daysInMonth d.year d.month) : d.number + 1 = daysBeforeYear (d.year + 1) := by
  have whole := daysBeforeMonth_december d.year
  have some := daysInMonth_pos d.year 12
  rw [number, last, december, daysBeforeYear_succ d.isDate.1, ← whole]
  omega

/-- After each day but the last of the calendar comes another one. -/
theorem exists_next (d : Date) (notLast : d.number + 1 < dayCount) :
    ∃ next : Date, next.number = d.number + 1 := by
  obtain ⟨year, years, month, months, day, days⟩ := d.isDate
  by_cases sameMonth : d.day < daysInMonth d.year d.month
  · refine ⟨⟨d.year, d.month, d.day + 1, year, years, month, months, Nat.le_add_left 1 _, sameMonth⟩, ?_⟩
    simp only [number]
    omega
  · have monthEnds : d.day = daysInMonth d.year d.month := by omega
    by_cases sameYear : d.month < 12
    · refine ⟨⟨d.year, d.month + 1, 1, year, years, Nat.le_add_left 1 _, sameYear, Nat.le_refl 1,
        daysInMonth_pos _ _⟩, ?_⟩
      simp only [number, daysBeforeMonth_succ d.year month]
      omega
    · have yearEnds : d.number + 1 = daysBeforeYear (d.year + 1) :=
        number_december (by omega) monthEnds
      have another : d.year < 9999 := by
        by_contra last
        have final : d.year = 9999 := by omega
        rw [yearEnds, final] at notLast
        exact absurd notLast (by decide)
      refine ⟨⟨d.year + 1, 1, 1, Nat.le_add_left 1 _, another, Nat.le_refl 1, by decide, Nat.le_refl 1,
        daysInMonth_pos _ _⟩, ?_⟩
      rw [yearEnds]
      rfl

/-- Every number below that of the days is the number of a date. -/
theorem exists_number {n : Nat} (inside : n < dayCount) : ∃ d : Date, d.number = n := by
  induction n with
  | zero => exact ⟨⟨1, 1, 1, by decide⟩, rfl⟩
  | succ n ih =>
    obtain ⟨d, rfl⟩ := ih (Nat.lt_of_succ_lt inside)
    exact d.exists_next inside

end Date

/-- Every number of microseconds less than a day is a time of the day. -/
theorem Time.exists_number {n : Nat} (inside : n < dayLength) : ∃ t : Time, t.number = n := by
  simp only [dayLength, secondLength] at inside
  refine ⟨⟨n / 3600000000, n / 60000000 % 60, n / 1000000 % 60, n % 1000000, ?_, ?_, ?_, ?_⟩, ?_⟩
  · omega
  · omega
  · omega
  · simp only [secondLength]
    omega
  · simp only [number, secondLength]
    omega

/-- All that lies in the calendar can be shown by a clock. -/
theorem Timestamp.exists_clock_iff {n : Int} :
    (∃ t : Timestamp, (t.clock : Int) = n) ↔ 0 ≤ n ∧ n < (dayCount * dayLength : Nat) := by
  constructor
  · intro ⟨t, shown⟩
    have inside := t.clock_lt
    omega
  · intro ⟨pos, inside⟩
    obtain ⟨n, rfl⟩ := Int.eq_ofNat_of_zero_le pos
    have within : n < dayLength * dayCount := by
      rw [Nat.mul_comm]
      exact Int.ofNat_lt.mp inside
    obtain ⟨date, day⟩ := Date.exists_number (Nat.div_lt_of_lt_mul within)
    obtain ⟨time, moment⟩ := Time.exists_number (Nat.mod_lt n (by decide))
    refine ⟨⟨date, time, none⟩, ?_⟩
    rw [clock, day, moment, Nat.div_add_mod']

end ContactSearch.Calendar
