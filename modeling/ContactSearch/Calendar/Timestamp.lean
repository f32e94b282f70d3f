import ContactSearch.Calendar.Date

/-!
# Timestamps

A timestamp is what a wall clock shows, to the microsecond, with the offset of that clock from
UTC. A clock of unknown offset is taken to show UTC.
-/

namespace ContactSearch.Calendar

/-- The length of a second in microseconds. -/
def secondLength : Nat := 1000000

/-- The length of a day in microseconds. -/
def dayLength : Nat := 86400 * secondLength

/-- The parts name a time of the day. -/
def IsTime (hour minute second micro : Nat) : Prop :=
  hour < 24 ∧ minute < 60 ∧ second < 60 ∧ micro < secondLength

instance (hour minute second micro : Nat) : Decidable (IsTime hour minute second micro) :=
  inferInstanceAs (Decidable (_ ∧ _))

/-- A time of the day. -/
structure Time where
  hour : Nat
  minute : Nat
  second : Nat
  micro : Nat
  isTime : IsTime hour minute second micro
deriving DecidableEq

namespace Time

/-- The time of an hour, a minute, a second and microseconds. -/
def make? (hour minute second micro : Nat) : Option Time :=
  if h : IsTime hour minute second micro then some ⟨hour, minute, second, micro, h⟩ else none

theorem make?_self (t : Time) : make? t.hour t.minute t.second t.micro = some t := by
  simp [make?, t.isTime]

/-- The start of the day. -/
def midnight : Time :=
  ⟨0, 0, 0, 0, by decide⟩

/-- The number of microseconds since midnight. -/
def number (t : Time) : Nat :=
  ((t.hour * 60 + t.minute) * 60 + t.second) * secondLength + t.micro

/-- The time that many microseconds after midnight. -/
def ofNumber? (n : Nat) : Option Time :=
  let seconds := n / secondLength
  make? (seconds / 3600) (seconds / 60 % 60) (seconds % 60) (n % secondLength)

theorem number_lt (t : Time) : t.number < dayLength := by
  have h := t.isTime
  simp only [IsTime, secondLength] at h
  simp only [number, dayLength, secondLength]
  omega

end Time

/-- The offset of a clock from UTC in minutes, positive to the east, less than a day. -/
structure Offset where
  minutes : Int
  isSmall : minutes.natAbs < 1440
deriving DecidableEq

namespace Offset

/-- The offset of a number of minutes. -/
def make? (minutes : Int) : Option Offset :=
  if h : minutes.natAbs < 1440 then some ⟨minutes, h⟩ else none

theorem make?_self (o : Offset) : make? o.minutes = some o := by
  simp [make?, o.isSmall]

/-- No offset from UTC. -/
def utc : Offset :=
  ⟨0, by decide⟩

/-- The offset in microseconds. -/
def length (o : Offset) : Int :=
  o.minutes * 60 * secondLength

end Offset

/-- A reading of a clock, with its offset if that is known. -/
structure Timestamp where
  date : Date
  time : Time
  offset : Option Offset
deriving DecidableEq

namespace Timestamp

/-- The number of microseconds that the clock shows since the start of the calendar. -/
def clock (t : Timestamp) : Nat :=
  t.date.number * dayLength + t.time.number

/-- The moment in microseconds since the start of the calendar in UTC. -/
def instant (t : Timestamp) : Int :=
  t.clock - (t.offset.getD .utc).length

/-- The timestamp in UTC of a moment, if it lies in the calendar. -/
def ofInstant? (n : Int) : Option Timestamp :=
  if n < 0 then none
  else do
    let date ← Date.ofNumber? (n.toNat / dayLength)
    let time ← Time.ofNumber? (n.toNat % dayLength)
    return ⟨date, time, some .utc⟩

end Timestamp

end ContactSearch.Calendar
