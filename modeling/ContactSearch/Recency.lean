import ContactSearch.Calendar.Timestamp
import ContactSearch.Text.Digit

/-!
# Recency

Whether something happened within so many days before now, and how its age is told. Both compare
moments; the offsets in which the two timestamps are written do not matter.
-/

namespace ContactSearch

open Calendar

/-- Why a span of days before now has no start. -/
inductive RecencyError where
  /-- The span is longer than any that is counted. -/
  | tooManyDays (days : Int)
  /-- The clock would have shown a time outside the calendar. -/
  | outsideCalendar
deriving Repr, DecidableEq

namespace Recency

/-- The longest span in days. -/
def maxDays : Nat := 999999999

/-- The moment so many days before now. -/
def cutoff (now : Timestamp) (days : Int) : Except RecencyError Int :=
  if maxDays < days.natAbs then .error (.tooManyDays days)
  else
    let shown : Int := now.clock - days * dayLength
    if 0 ≤ shown ∧ shown < (dayCount * dayLength : Nat) then .ok (now.instant - days * dayLength)
    else .error .outsideCalendar

/-- Something happened no earlier than so many days before now. -/
def within (now : Timestamp) (days : Int) (created : Timestamp) : Except RecencyError Bool := do
  return decide ((← cutoff now days) ≤ created.instant)

/-- The number of whole days from a moment to now, negative if it is still to come. -/
def ageInDays (now created : Timestamp) : Int :=
  Int.fdiv (now.instant - created.instant) dayLength

/-- An age in words: in days, from a week on in weeks, from thirty days on in months of thirty
days. -/
def ageText (now created : Timestamp) : List Char :=
  let days := ageInDays now created
  if days = 0 then "today".toList
  else if days = 1 then "yesterday".toList
  else if days < 7 then Text.intText days ++ " days ago".toList
  else if days < 30 then Text.intText (Int.fdiv days 7) ++ " weeks ago".toList
  else Text.intText (Int.fdiv days 30) ++ " months ago".toList

end Recency

end ContactSearch
