import ContactSearch.Intent
import ContactSearch.Match.Basic

/-!
# Results

A result is a contact that was found, with its score and all reasons for it. Results are listed by
score, the greatest first; equal scores keep the order of the contacts.
-/

namespace ContactSearch

/-- A contact that was found. -/
structure SearchResult where
  contactId : Int
  score : Int
  reasons : List String
  intents : List Intent
deriving Repr, DecidableEq

namespace SearchResult

/-- The results by decreasing score. -/
def ranked (results : List SearchResult) : List SearchResult :=
  results.mergeSort fun a b => b.score ≤ a.score

/-- The sum of the scores of matches. -/
def total (found : List Match) : Int :=
  found.foldr (fun m score => m.score + score) 0

@[simp] theorem total_nil : total [] = 0 := rfl

@[simp] theorem total_cons (m : Match) (found : List Match) :
    total (m :: found) = m.score + total found := rfl

/-- The result of several matches of one contact. -/
def ofMatches (contactId : Int) (found : List Match) (intents : List Intent) : SearchResult :=
  ⟨contactId, total found, found.map (·.reason), intents⟩

theorem perm_ranked (results : List SearchResult) : (ranked results).Perm results :=
  List.mergeSort_perm results _

end SearchResult

end ContactSearch
