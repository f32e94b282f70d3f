import ContactSearch.Match.Intent
import ContactSearch.Query.Parsed
import ContactSearch.Result

/-!
# Search

A parsed query is run over contacts. Every intent that matches a contact and the free text add to
its score; a contact that nothing matches is left out.
-/

namespace ContactSearch.Search

open Calendar

/-- The intents that match a contact, each with its match. -/
def matched (now : Timestamp) (intents : List Intent) (c : Contact) :
    Except RecencyError (List (Intent × Match)) := do
  let pairs ← intents.mapM fun i => do return (← Match.intent? now i c).map fun m => (i, m)
  return pairs.filterMap id

/-- The match of the free text, if there is any. -/
def freeTextMatch? (freeText : String) (c : Contact) : Option Match :=
  if freeText.isEmpty then none else Match.freeText? freeText c

/-- The result for one contact. -/
def result? (now : Timestamp) (query : ParsedQuery) (c : Contact) :
    Except RecencyError (Option SearchResult) := do
  let pairs ← matched now query.intents c
  let found := pairs.map (·.2) ++ (freeTextMatch? query.freeText c).toList
  let result := SearchResult.ofMatches c.id found (pairs.map (·.1))
  return if 0 < result.score then some result else none

/-- There is nothing to search for. -/
def isBlank (query : ParsedQuery) : Bool :=
  query.intents.isEmpty && query.freeText.isEmpty

/-- Runs a query over contacts. -/
def run (now : Timestamp) (query : ParsedQuery) (contacts : List Contact) :
    Except RecencyError (List SearchResult) := do
  if isBlank query then return []
  let results ← contacts.mapM (result? now query)
  return SearchResult.ranked (results.filterMap id)

end ContactSearch.Search
