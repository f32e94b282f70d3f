import ContactSearch.Proofs.Query.AsciiCase
import ContactSearch.Proofs.Ranking
import ContactSearch.Proofs.Traversal
import ContactSearch.Search

/-!
# Searches that differ in the case of ASCII letters

Names are compared in lower case and every other intent is the same, so readings that are alike
score alike at every contact. A search then lists the same contacts with the same scores in the
same order, or fails with the same error.
-/

namespace ContactSearch

open Text Calendar

/-- What a result says about its contact, the reasons apart. -/
def SearchResult.rating (r : SearchResult) : Int × Int :=
  (r.contactId, r.score)

namespace Search

variable {p q : ParsedQuery} {i j : Intent}

theorem score_freeText?_eq {s t : String} (alike : AsciiAlike s.toList t.toList) (c : Contact) :
    (Match.freeText? s c).map Match.score = (Match.freeText? t c).map Match.score := by
  have lowered : s.lowered = t.lowered := alike.lower_eq
  simp only [Match.freeText?, lowered, Option.map_map]
  rfl

/-- Intents that are alike score alike. -/
theorem score_intent?_eq (alike : i.Alike j) (now : Timestamp) (c : Contact) :
    (Match.intent? now i c).map (Option.map Match.score) =
      (Match.intent? now j c).map (Option.map Match.score) := by
  by_cases name : i.kind = .name
  · have name' : j.kind = .name := alike.kind ▸ name
    simp only [Match.intent?, name, name', Except.map, score_freeText?_eq alike.value]
  · rw [alike.same name]

/-- The scores of the intents that match are the same. -/
theorem scores_matched_eq (alike : p.Alike q) (now : Timestamp) (c : Contact) :
    (matched now p.intents c).map (List.map fun found => found.2.score) =
      (matched now q.intents c).map (List.map fun found => found.2.score) := by
  unfold matched
  have each : List.Forall₂ (fun i j =>
      (do return (← Match.intent? now i c).map fun m => (i, m)).map
          (Option.map fun found : Intent × Match => found.2.score) =
        (do return (← Match.intent? now j c).map fun m => (j, m)).map
          (Option.map fun found : Intent × Match => found.2.score)) p.intents q.intents := by
    refine alike.intents.imp fun i j alike => ?_
    refine map_bind_eq (score_intent?_eq alike now c) fun m n score => ?_
    show Except.ok _ = Except.ok _
    rw [Option.map_map, Option.map_map]
    exact congrArg Except.ok score
  refine map_bind_eq (map_mapM_eq each) fun found found' scores => ?_
  exact congrArg Except.ok (map_filterMap_id_eq scores)

/-- A result counts by its score, so of equal ratings both count or neither does. -/
theorem rating_counted_eq {r r' : SearchResult} (same : r.rating = r'.rating) :
    (if 0 < r.score then some r else none).map SearchResult.rating =
      (if 0 < r'.score then some r' else none).map SearchResult.rating := by
  have score : r.score = r'.score := congrArg Prod.snd same
  rw [score]
  split
  · exact congrArg some same
  · rfl

theorem score_freeTextMatch?_eq {s t : String} (alike : AsciiAlike s.toList t.toList)
    (c : Contact) : (freeTextMatch? s c).map Match.score = (freeTextMatch? t c).map Match.score := by
  rw [freeTextMatch?, freeTextMatch?, alike.isEmpty_eq]
  split
  · rfl
  · exact score_freeText?_eq alike c

theorem rating_result?_eq (alike : p.Alike q) (now : Timestamp) (c : Contact) :
    (result? now p c).map (Option.map SearchResult.rating) =
      (result? now q c).map (Option.map SearchResult.rating) := by
  unfold result?
  refine map_bind_eq (scores_matched_eq alike now c) fun found found' scores => ?_
  have freeText := congrArg Option.toList (score_freeTextMatch?_eq alike.freeText c)
  rw [Option.toList_map, Option.toList_map] at freeText
  have total : SearchResult.total (found.map (·.2) ++ (freeTextMatch? p.freeText c).toList) =
      SearchResult.total (found'.map (·.2) ++ (freeTextMatch? q.freeText c).toList) := by
    rw [SearchResult.total_eq_sum, SearchResult.total_eq_sum, List.map_append, List.map_append,
      List.map_map, List.map_map, freeText]
    exact congrArg (fun listed : List Int => (listed ++ _).sum) scores
  exact congrArg Except.ok (rating_counted_eq (Prod.ext rfl total))

/-- The ranking of results is that of their ratings. -/
theorem ratings_ranked (results : List SearchResult) :
    (SearchResult.ranked results).map SearchResult.rating =
      (results.map SearchResult.rating).mergeSort fun a b => b.2 ≤ a.2 :=
  List.map_mergeSort fun _ _ _ _ => rfl

theorem isBlank_eq (alike : p.Alike q) : isBlank p = isBlank q := by
  have intents : p.intents.isEmpty = q.intents.isEmpty := by
    rw [Bool.eq_iff_iff, List.isEmpty_iff_length_eq_zero, List.isEmpty_iff_length_eq_zero,
      alike.intents.length_eq]
  rw [isBlank, isBlank, intents, alike.freeText.isEmpty_eq]

theorem ratings_run_eq (alike : p.Alike q) (now : Timestamp) (contacts : List Contact) :
    (run now p contacts).map (List.map SearchResult.rating) =
      (run now q contacts).map (List.map SearchResult.rating) := by
  unfold run
  rw [isBlank_eq alike]
  split
  · rfl
  · refine map_bind_eq (map_mapM_eq (List.forall₂_same.mpr fun c _ =>
      rating_result?_eq alike now c)) fun found found' same => ?_
    show Except.ok _ = Except.ok _
    rw [ratings_ranked, ratings_ranked, map_filterMap_id_eq same]

/-- Queries that differ in the case of ASCII letters only are read alike, whatever organizations and
sources are known, and a search finds the same contacts for both, with the same scores and in the
same order, or fails for both. -/
theorem parse_run_ignore_asciiCase {a b : String} (alike : AsciiAlike a.toList b.toList)
    (orgs : List String) (sources : List Source) :
    (Query.parse a orgs sources).Alike (Query.parse b orgs sources) ∧
      ∀ (now : Timestamp) (contacts : List Contact),
        (run now (Query.parse a orgs sources) contacts).map (List.map SearchResult.rating) =
          (run now (Query.parse b orgs sources) contacts).map (List.map SearchResult.rating) := by
  have read := Query.parse_alike alike orgs sources
  exact ⟨read, fun now contacts => ratings_run_eq read now contacts⟩

theorem shoutedQuery_ignores_asciiCase :
    AsciiAlike "JANE at ΑΣ ltd".toList "Jane AT ΑΣ Ltd".toList ∧
      (Query.parse "JANE at ΑΣ ltd" ["ας LTD"] Source.catalog).Alike
        (Query.parse "Jane AT ΑΣ Ltd" ["ας LTD"] Source.catalog) ∧
      ∀ (now : Timestamp) (contacts : List Contact),
        (run now (Query.parse "JANE at ΑΣ ltd" ["ας LTD"] Source.catalog) contacts).map
            (List.map SearchResult.rating) =
          (run now (Query.parse "Jane AT ΑΣ Ltd" ["ας LTD"] Source.catalog) contacts).map
            (List.map SearchResult.rating) := by
  have alike : AsciiAlike "JANE at ΑΣ ltd".toList "Jane AT ΑΣ Ltd".toList := by decide
  exact ⟨alike, parse_run_ignore_asciiCase alike ["ας LTD"] Source.catalog⟩

end Search

end ContactSearch
