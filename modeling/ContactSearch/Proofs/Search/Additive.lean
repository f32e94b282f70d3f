import ContactSearch.Proofs.Match.Score
import ContactSearch.Proofs.Ranking
import ContactSearch.Proofs.Traversal
import ContactSearch.Search

/-!
# Search by adding up

A contact is found when one of the intents of the query matches it or the free text scores, and
its score is the sum over all of them. What is found of one contact does not depend on the others;
these only decide where in the list it stands.
-/

namespace ContactSearch

open Calendar

/-- An intent matches a contact. -/
def Match.hits (now : Timestamp) (c : Contact) (i : Intent) : Bool :=
  Match.intent? now i c matches .ok (some _)

/-- There is free text, and it scores at a contact. -/
def ParsedQuery.freeTextScores (query : ParsedQuery) (c : Contact) : Bool :=
  query.freeText ≠ "" && 0 < (Match.freeText query.freeText c).score

/-- A result that tells of everything in a query that speaks for a contact. -/
structure SearchResult.Reports (now : Timestamp) (query : ParsedQuery) (c : Contact)
    (r : SearchResult) : Prop where
  contact : r.contactId = c.id
  intents : r.intents = query.intents.filter (Match.hits now c)
  noOwner : ∀ i ∈ r.intents, i.kind ≠ .owner
  /-- The matches of the intents, and after them that of the free text if it scores. -/
  sum : ∃ found : List Match,
    List.Forall₂ (fun i m => Match.intent? now i c = .ok (some m)) r.intents found ∧
    r.score = (found.map Match.score).sum +
      (if query.freeTextScores c then (Match.freeText query.freeText c).score else 0) ∧
    r.reasons = found.map Match.reason ++
      (if query.freeTextScores c then [(Match.freeText query.freeText c).reason] else [])
  count : r.reasons.length = r.intents.length + (if query.freeTextScores c then 1 else 0)

/-- A result that tells of the match of an intent, and counts it. -/
structure SearchResult.Tells (i : Intent) (m : Match) (r : SearchResult) : Prop where
  intent : i ∈ r.intents
  score : m.score ≤ r.score
  reason : m.reason ∈ r.reasons

namespace Search

/-- The match of an intent, if it matches. -/
def found? (now : Timestamp) (c : Contact) (i : Intent) : Option Match :=
  match Match.intent? now i c with
  | .ok m => m
  | .error _ => none

theorem intent?_eq_some_iff {now : Timestamp} {c : Contact} {i : Intent} {m : Match} :
    Match.intent? now i c = .ok (some m) ↔ found? now c i = some m := by
  unfold found?
  split <;> simp_all

theorem isSome_found? (now : Timestamp) (c : Contact) (i : Intent) :
    (found? now c i).isSome = Match.hits now c i := by
  unfold found? Match.hits
  split <;> rename_i h
  · rename_i m; cases m <;> rw [h] <;> rfl
  · rw [h]; rfl

/-- The intents that match with their matches, as a search that meets no error lists them. -/
def hitPairs (now : Timestamp) (intents : List Intent) (c : Contact) : List (Intent × Match) :=
  intents.filterMap fun i => (found? now c i).map fun m => (i, m)

theorem matched_eq_hitPairs {now : Timestamp} {intents : List Intent} {c : Contact}
    (fine : ∀ i ∈ intents, ∃ m, Match.intent? now i c = .ok m) :
    matched now intents c = .ok (hitPairs now intents c) := by
  have each : ∀ i ∈ intents, (do return (← Match.intent? now i c).map fun m => (i, m)) =
      (.ok ((found? now c i).map fun m => (i, m)) : Except RecencyError _) := by
    intro i member
    obtain ⟨m, run⟩ := fine i member
    simp [found?, run, bind, Except.bind, pure, Except.pure]
  unfold matched
  rw [mapM_eq_map each]
  simp [hitPairs, bind, Except.bind, pure, Except.pure, List.filterMap_map]

theorem matched_eq_error_iff {now : Timestamp} {intents : List Intent} {c : Contact} :
    (∃ e, matched now intents c = .error e) ↔
      ∃ i ∈ intents, ∃ e, Match.intent? now i c = .error e := by
  unfold matched
  rw [bind_eq_error_iff, mapM_eq_error_iff]
  constructor
  · rintro (⟨i, member, failed⟩ | ⟨pairs, -, e, failed⟩)
    · rcases bind_eq_error_iff.mp failed with failed | ⟨m, -, e, failed⟩
      · exact ⟨i, member, failed⟩
      · cases failed
    · cases failed
  · rintro ⟨i, member, failed⟩
    exact .inl ⟨i, member, bind_eq_error_iff.mpr (.inl failed)⟩

theorem map_fst_hitPairs (now : Timestamp) (intents : List Intent) (c : Contact) :
    (hitPairs now intents c).map (·.1) = intents.filter (Match.hits now c) := by
  induction intents with
  | nil => rfl
  | cons i intents ih =>
    unfold hitPairs at ih ⊢
    rw [List.filter_cons, ← isSome_found?]
    cases h : found? now c i with
    | none => simp [h, ih]
    | some m => simp [h, ih]

theorem forall₂_hitPairs (now : Timestamp) (intents : List Intent) (c : Contact) :
    List.Forall₂ (fun i m => Match.intent? now i c = .ok (some m))
      ((hitPairs now intents c).map (·.1)) ((hitPairs now intents c).map (·.2)) := by
  rw [List.forall₂_map_left_iff, List.forall₂_map_right_iff, List.forall₂_same]
  rintro ⟨i, m⟩ member
  obtain ⟨j, -, hit⟩ := List.mem_filterMap.mp member
  obtain ⟨n, found, same⟩ := Option.map_eq_some_iff.mp hit
  cases same
  exact intent?_eq_some_iff.mpr found

theorem freeTextMatch?_eq (query : ParsedQuery) (c : Contact) :
    freeTextMatch? query.freeText c =
      if query.freeTextScores c then some (Match.freeText query.freeText c) else none := by
  unfold freeTextMatch? ParsedQuery.freeTextScores
  by_cases empty : query.freeText = ""
  · simp [empty]
  · have given : query.freeText.isEmpty = false := by simpa using empty
    cases found : Match.freeText? query.freeText c with
    | none => simp [given, Match.freeText, found, Match.nothing]
    | some m =>
      have scores := Match.score_freeText?_pos found
      simp [given, empty, Match.freeText, found, scores]

/-- All matches of a query at a contact, that of the free text last. -/
def allMatches (now : Timestamp) (query : ParsedQuery) (c : Contact) : List Match :=
  (hitPairs now query.intents c).map (·.2) ++ (freeTextMatch? query.freeText c).toList

/-- The result for a contact at which no intent fails. -/
def resultOf (now : Timestamp) (query : ParsedQuery) (c : Contact) : Option SearchResult :=
  let result := SearchResult.ofMatches c.id (allMatches now query c)
    ((hitPairs now query.intents c).map (·.1))
  if 0 < result.score then some result else none

theorem result?_eq_resultOf {now : Timestamp} {query : ParsedQuery} {c : Contact}
    (fine : ∀ i ∈ query.intents, ∃ m, Match.intent? now i c = .ok m) :
    result? now query c = .ok (resultOf now query c) := by
  unfold result?
  rw [matched_eq_hitPairs fine]
  rfl

theorem result?_eq_error_iff {now : Timestamp} {query : ParsedQuery} {c : Contact} :
    (∃ e, result? now query c = .error e) ↔
      ∃ i ∈ query.intents, ∃ e, Match.intent? now i c = .error e := by
  unfold result?
  rw [bind_eq_error_iff, matched_eq_error_iff]
  constructor
  · rintro (failed | ⟨pairs, -, e, failed⟩)
    · exact failed
    · cases failed
  · exact .inl

theorem score_pos_of_mem_allMatches {now : Timestamp} {query : ParsedQuery} {c : Contact} {m : Match}
    (member : m ∈ allMatches now query c) : 0 < m.score := by
  rcases List.mem_append.mp member with member | member
  · obtain ⟨⟨i, n⟩, pair, rfl⟩ := List.mem_map.mp member
    obtain ⟨j, -, hit⟩ := List.mem_filterMap.mp pair
    obtain ⟨n', found, same⟩ := Option.map_eq_some_iff.mp hit
    cases same
    exact Match.score_intent?_pos (intent?_eq_some_iff.mpr found)
  · rw [freeTextMatch?_eq] at member
    split at member
    · rename_i scores
      simp only [Option.toList_some, List.mem_singleton] at member
      subst member
      exact of_decide_eq_true ((Bool.and_eq_true _ _).mp scores).2
    · simp at member

theorem isSome_resultOf_iff (now : Timestamp) (query : ParsedQuery) (c : Contact) :
    (resultOf now query c).isSome ↔
      (∃ i ∈ query.intents, Match.hits now c i) ∨ query.freeTextScores c := by
  have anyHit : (hitPairs now query.intents c).map (·.2) ≠ [] ↔
      ∃ i ∈ query.intents, Match.hits now c i := by
    have empty : (hitPairs now query.intents c).map (·.2) = [] ↔
        query.intents.filter (Match.hits now c) = [] := by
      rw [← map_fst_hitPairs, List.map_eq_nil_iff, List.map_eq_nil_iff]
    rw [ne_eq, empty]
    simp
  have counted : 0 < SearchResult.total (allMatches now query c) ↔ allMatches now query c ≠ [] :=
    SearchResult.total_pos_iff fun m member => score_pos_of_mem_allMatches member
  unfold resultOf
  simp only [SearchResult.ofMatches, counted, ← anyHit]
  unfold allMatches
  rw [freeTextMatch?_eq]
  by_cases scores : query.freeTextScores c = true
  · simp [scores]
  · by_cases none : hitPairs now query.intents c = [] <;> simp [scores, none]

theorem hits_owner {now : Timestamp} {c : Contact} {i : Intent} (owner : i.kind = .owner) :
    Match.hits now c i = false := by
  simp [Match.hits, Match.intent?, owner]

theorem reports_resultOf {now : Timestamp} {query : ParsedQuery} {c : Contact} {r : SearchResult}
    (found : resultOf now query c = some r) : SearchResult.Reports now query c r := by
  unfold resultOf at found
  simp only [Option.ite_none_right_eq_some, Option.some.injEq] at found
  obtain ⟨-, rfl⟩ := found
  refine ⟨rfl, map_fst_hitPairs _ _ _, ?_, ⟨_, forall₂_hitPairs _ _ _, ?_, ?_⟩, ?_⟩
  · intro i member owner
    simp only [SearchResult.ofMatches, map_fst_hitPairs, List.mem_filter] at member
    rw [hits_owner owner] at member
    exact absurd member.2 Bool.false_ne_true
  · simp only [SearchResult.ofMatches, SearchResult.total_eq_sum, allMatches, List.map_append,
      List.sum_append, freeTextMatch?_eq]
    split <;> simp
  · simp only [SearchResult.ofMatches, allMatches, List.map_append, freeTextMatch?_eq]
    split <;> simp
  · simp only [SearchResult.ofMatches, allMatches, List.length_map, List.length_append,
      freeTextMatch?_eq]
    split <;> simp

/-- What is found of a contact tells of every intent that matches it. -/
theorem tells_resultOf {now : Timestamp} {query : ParsedQuery} {c : Contact} {i : Intent} {m : Match}
    {r : SearchResult} (found : resultOf now query c = some r) (asked : i ∈ query.intents)
    (hit : Match.intent? now i c = .ok (some m)) : r.Tells i m := by
  have pair : (i, m) ∈ hitPairs now query.intents c :=
    List.mem_filterMap.mpr ⟨i, asked, by rw [intent?_eq_some_iff.mp hit]; rfl⟩
  have counted : m ∈ allMatches now query c :=
    List.mem_append_left _ (List.mem_map_of_mem pair)
  unfold resultOf at found
  simp only [Option.ite_none_right_eq_some, Option.some.injEq] at found
  obtain ⟨-, rfl⟩ := found
  exact ⟨List.mem_map_of_mem pair,
    SearchResult.score_le_total (fun _ => score_pos_of_mem_allMatches) counted,
    List.mem_map_of_mem counted⟩

/-- A contact that an intent of the query matches is found, and the reason is told. -/
theorem exists_resultOf_of_hit {now : Timestamp} {query : ParsedQuery} {c : Contact} {i : Intent}
    {m : Match} (asked : i ∈ query.intents) (hit : Match.intent? now i c = .ok (some m)) :
    ∃ r, resultOf now query c = some r ∧ r.contactId = c.id ∧ m.reason ∈ r.reasons := by
  have hits : Match.hits now c i = true := by
    rw [← isSome_found?, intent?_eq_some_iff.mp hit]
    rfl
  have some := (isSome_resultOf_iff now query c).mpr (.inl ⟨i, asked, hits⟩)
  obtain ⟨r, found⟩ := Option.isSome_iff_exists.mp some
  exact ⟨r, found, (reports_resultOf found).contact, (tells_resultOf found asked hit).reason⟩

theorem fine_of_no_error {now : Timestamp} {query : ParsedQuery} {c : Contact}
    (none : ¬ ∃ i ∈ query.intents, ∃ e, Match.intent? now i c = .error e) :
    ∀ i ∈ query.intents, ∃ m, Match.intent? now i c = .ok m := by
  intro i member
  cases run : Match.intent? now i c with
  | ok m => exact ⟨m, rfl⟩
  | error e => exact absurd ⟨i, member, e, run⟩ none

theorem run_eq_of_isBlank {now : Timestamp} {query : ParsedQuery} (contacts : List Contact)
    (blank : isBlank query = true) : run now query contacts = .ok [] := by
  simp [run, blank, pure, Except.pure]

theorem run_eq_of_not_isBlank {now : Timestamp} {query : ParsedQuery} (contacts : List Contact)
    (given : isBlank query = false) :
    run now query contacts = contacts.mapM (result? now query) >>= fun results =>
      .ok (SearchResult.ranked (results.filterMap id)) := by
  simp [run, given, bind, Except.bind, pure, Except.pure]

theorem run_eq_error_iff (now : Timestamp) (query : ParsedQuery) (contacts : List Contact) :
    (∃ e, run now query contacts = .error e) ↔
      ∃ c ∈ contacts, ∃ i ∈ query.intents, ∃ e, Match.intent? now i c = .error e := by
  by_cases blank : isBlank query = true
  · have noIntents : query.intents = [] := by
      simpa using ((Bool.and_eq_true _ _).mp blank).1
    simp [run_eq_of_isBlank contacts blank, noIntents]
  · rw [run_eq_of_not_isBlank contacts (Bool.eq_false_iff.mpr blank), bind_eq_error_iff,
      mapM_eq_error_iff]
    simp only [result?_eq_error_iff, reduceCtorEq, exists_false, and_false, or_false]

/-- A blank query speaks for no contact, so leaving out the walk over the contacts changes
nothing. -/
theorem resultOf_of_isBlank {now : Timestamp} {query : ParsedQuery} (c : Contact)
    (blank : isBlank query = true) : resultOf now query c = none := by
  obtain ⟨noIntents, noText⟩ := (Bool.and_eq_true _ _).mp blank
  rw [List.isEmpty_iff] at noIntents
  have silent : query.freeTextScores c = false := by
    simp only [ParsedQuery.freeTextScores, Bool.and_eq_false_iff]
    exact .inl (by simpa using noText)
  by_contra some
  rcases (isSome_resultOf_iff now query c).mp (Option.isSome_iff_ne_none.mpr some) with hit | scores
  · simp [noIntents] at hit
  · rw [silent] at scores
    cases scores

/-- A search that does not fail ranks what it finds of each contact. -/
theorem eq_ranked_of_run {now : Timestamp} {query : ParsedQuery} {contacts : List Contact}
    {results : List SearchResult} (ran : run now query contacts = .ok results) :
    results = SearchResult.ranked (contacts.filterMap (resultOf now query)) := by
  by_cases blank : isBlank query = true
  · have nothing : contacts.filterMap (resultOf now query) = [] := by
      rw [List.filterMap_eq_nil_iff]
      exact fun c _ => resultOf_of_isBlank c blank
    rw [run_eq_of_isBlank contacts blank] at ran
    cases ran
    rw [nothing, SearchResult.ranked, List.mergeSort_nil]
  · have each : ∀ c ∈ contacts, result? now query c = .ok (resultOf now query c) := by
      intro c member
      refine result?_eq_resultOf (fine_of_no_error ?_)
      intro stuck
      obtain ⟨e, failed⟩ := (run_eq_error_iff now query contacts).mpr ⟨c, member, stuck⟩
      rw [failed] at ran
      cases ran
    rw [run_eq_of_not_isBlank contacts (Bool.eq_false_iff.mpr blank), mapM_eq_map each] at ran
    cases ran
    rw [List.filterMap_map, Function.id_comp]

theorem isRanking_of_run {now : Timestamp} {query : ParsedQuery} {contacts : List Contact}
    {results : List SearchResult} (ran : run now query contacts = .ok results) :
    IsRanking (contacts.filterMap (resultOf now query)) results := by
  rw [eq_ranked_of_run ran]
  exact SearchResult.isRanking_ranked _

theorem mem_results_iff {now : Timestamp} {query : ParsedQuery} {contacts : List Contact}
    {results : List SearchResult} (ran : run now query contacts = .ok results) {r : SearchResult} :
    r ∈ results ↔ ∃ c ∈ contacts, resultOf now query c = some r := by
  rw [eq_ranked_of_run ran, (SearchResult.perm_ranked _).mem_iff, List.mem_filterMap]

end Search

end ContactSearch
