import ContactSearch.Filter.Check
import ContactSearch.Result

/-!
# Filtered contacts

A contact is kept when it satisfies every active filter; its score is the sum over them. Without
an active filter nothing is kept.
-/

namespace ContactSearch.Filters

open Calendar

/-- The result for one contact, if it satisfies so many filters. -/
def result? (f : Filters) (context : FilterContext) (now : Timestamp) (count : Nat) (c : Contact) :
    Except RecencyError (Option SearchResult) := do
  let found := (← f.outcomes context now c).filterMap Outcome.match?
  return if found.length = count then some (SearchResult.ofMatches c.id found context.intents)
    else none

/-- The contacts that satisfy all active filters. -/
def apply (f : Filters) (context : FilterContext) (now : Timestamp) (contacts : List Contact) :
    Except RecencyError (List SearchResult) := do
  let count := f.activeCount context
  if count = 0 then return []
  let results ← contacts.mapM (f.result? context now count)
  return SearchResult.ranked (results.filterMap id)

end ContactSearch.Filters
