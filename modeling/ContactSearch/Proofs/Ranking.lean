import ContactSearch.Proofs.Sorting
import ContactSearch.Result
import Mathlib.Algebra.Order.Ring.Int

/-!
# Rankings

What it means to list results by score: nothing is lost or added, the greatest score comes first,
and equal scores stay in the order in which they were found. The last clause is the stability of
the sort, stated without positions: for each score, the results that have it form the same list.
Beside it stand the laws of the sum of scores that results are listed by.
-/

namespace ContactSearch

/-- The listed results are the found ones by decreasing score, ties in the order of finding. -/
structure IsRanking (found listed : List SearchResult) : Prop where
  perm : listed.Perm found
  descending : listed.Pairwise fun a b => b.score ≤ a.score
  stable : ∀ score, listed.filter (·.score = score) = found.filter (·.score = score)

namespace SearchResult

theorem total_eq_sum (found : List Match) : total found = (found.map Match.score).sum := by
  induction found with
  | nil => rfl
  | cons m found ih => rw [total_cons, ih, List.map_cons, List.sum_cons]

theorem score_ofMatches (id : Int) (found : List Match) (intents : List Intent) :
    (ofMatches id found intents).score = total found :=
  rfl

theorem total_append (found more : List Match) :
    total (found ++ more) = total found + total more := by
  simp [total_eq_sum]

theorem total_nonneg {found : List Match} (pos : ∀ m ∈ found, 0 < m.score) : 0 ≤ total found := by
  induction found with
  | nil => exact Int.le_refl 0
  | cons m found ih =>
    have head := pos m List.mem_cons_self
    have tail := ih fun n listed => pos n (List.mem_cons_of_mem _ listed)
    rw [total_cons]
    omega

/-- Matches that all count for something add up to something, if there are any. -/
theorem total_pos_iff {found : List Match} (pos : ∀ m ∈ found, 0 < m.score) :
    0 < total found ↔ found ≠ [] := by
  cases found with
  | nil => simp
  | cons m found =>
    have head := pos m List.mem_cons_self
    have tail := total_nonneg fun n listed => pos n (List.mem_cons_of_mem _ listed)
    simp only [total_cons, ne_eq, reduceCtorEq, not_false_eq_true, iff_true]
    omega

/-- Among matches that all count for something, none counts for more than all of them. -/
theorem score_le_total {found : List Match} {m : Match} (pos : ∀ n ∈ found, 0 < n.score)
    (listed : m ∈ found) : m.score ≤ total found := by
  obtain ⟨before, after, rfl⟩ := List.append_of_mem listed
  have front : 0 ≤ total before :=
    total_nonneg fun n member => pos n (List.mem_append_left _ member)
  have back : 0 ≤ total after := total_nonneg fun n member =>
    pos n (List.mem_append_right _ (List.mem_cons_of_mem _ member))
  rw [total_append, total_cons]
  omega

theorem pairwise_ranked (results : List SearchResult) :
    (ranked results).Pairwise fun a b => b.score ≤ a.score :=
  pairwise_mergeSort_key SearchResult.score results

theorem filter_ranked (results : List SearchResult) (score : Int) :
    (ranked results).filter (·.score = score) = results.filter (·.score = score) :=
  filter_mergeSort_key SearchResult.score results score

/-- Results of one score stay in their order. -/
theorem ranked_of_score_eq {results : List SearchResult} {score : Int}
    (same : ∀ r ∈ results, r.score = score) : ranked results = results := by
  have all := filter_ranked results score
  have listed : ∀ r ∈ ranked results, r.score = score :=
    fun r member => same r ((perm_ranked results).subset member)
  rwa [List.filter_eq_self.mpr (by simpa using listed),
    List.filter_eq_self.mpr (by simpa using same)] at all

theorem isRanking_ranked (results : List SearchResult) : IsRanking results (ranked results) :=
  ⟨perm_ranked results, pairwise_ranked results, filter_ranked results⟩

end SearchResult

end ContactSearch
