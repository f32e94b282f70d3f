import ContactSearch.Filter.Apply

/-!
# Answers of the classifier

The external classifier turns a query into filters. Its answer comes with an explanation, labels
for intents, and the data that was looked up for the filters.
-/

namespace ContactSearch

/-- What the classifier answers to a query. -/
structure ClassifierAnswer where
  filters : Filters
  explanation : String
  chips : List Chip
  matchedIds : Option (List Int)
  sectors : Option SectorMap
deriving Repr, DecidableEq

namespace ClassifierAnswer

open Calendar

/-- The data beside the filters. -/
def context (a : ClassifierAnswer) : FilterContext :=
  ⟨a.matchedIds, a.sectors, a.chips⟩

/-- The contacts that satisfy the filters of an answer. -/
def apply (a : ClassifierAnswer) (now : Timestamp) (contacts : List Contact) :
    Except RecencyError (List SearchResult) :=
  a.filters.apply a.context now contacts

end ClassifierAnswer

end ContactSearch
