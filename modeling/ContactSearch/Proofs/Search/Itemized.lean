import ContactSearch.Proofs.Search.Success

/-!
# What a score is made of

A query that was read from text yields at most one intent of a kind, so the score of a result can be
itemized by kinds. Free text counts twice: once as the intent on names that mirrors it, and once for
itself.
-/

namespace ContactSearch

open Calendar Query Text

namespace Search

/-- What an intent adds to the score of a contact. -/
def gain (now : Timestamp) (c : Contact) (i : Intent) : Int :=
  ((found? now c i).map Match.score).getD 0

/-- What the intents of one kind add to the score of a contact. -/
def item (now : Timestamp) (intents : List Intent) (c : Contact) (k : IntentKind) : Int :=
  ((intents.filter fun i => i.kind = k).map (gain now c)).sum

end Search

/-- What the free text of a query scores at a contact. -/
def ParsedQuery.textScore (p : ParsedQuery) (c : Contact) : Int :=
  if p.freeText = "" then 0 else (Match.freeText p.freeText c).score

/-- A result of which the score is the sum of an item for each kind of intents but the owner, and
of the free text twice. -/
structure SearchResult.IsItemized (now : Timestamp) (p : ParsedQuery) (c : Contact)
    (r : SearchResult) : Prop where
  contact : r.contactId = c.id
  score : r.score = Search.item now p.intents c .time + Search.item now p.intents c .warmth +
    Search.item now p.intents c .source + Search.item now p.intents c .company +
    Search.item now p.intents c .role + 2 * p.textScore c
  time : Search.item now p.intents c .time ∈ [0, 30]
  warmth : Search.item now p.intents c .warmth ∈ [0, 40]
  source : Search.item now p.intents c .source ∈ [0, 50, 30]
  company : Search.item now p.intents c .company ∈ [0, 100, 80]
  role : Search.item now p.intents c .role ∈ [0, 60]
  /-- Only intents of the query add anything. -/
  asked : ∀ k, Search.item now p.intents c k ≠ 0 → ∃ i ∈ p.intents, i.kind = k
  bounds : 30 ≤ r.score ∧ r.score ≤ 480
  noOwner : ∀ i ∈ r.intents, i.kind ≠ .owner
  /-- Free text that scores is told of at the end, by the intent on names and for itself. -/
  text : 0 < p.textScore c → r.intents.getLast? = some (nameIntent p.freeText) ∧
    ∃ told, r.reasons = told ++
      [(Match.freeText p.freeText c).reason, (Match.freeText p.freeText c).reason]

namespace Search

variable {now : Timestamp} {intents : List Intent} {c : Contact}

/-! ## Items -/

theorem gain_mem (i : Intent) : gain now c i ∈ 0 :: i.kind.weights := by
  unfold gain
  cases found : found? now c i with
  | none => exact List.mem_cons_self
  | some m => exact List.mem_cons_of_mem _ (Match.score_intent?_mem (intent?_eq_some_iff.mpr found))

theorem item_cons (i : Intent) (k : IntentKind) : item now (i :: intents) c k =
    (if i.kind = k then gain now c i else 0) + item now intents c k := by
  unfold item
  by_cases same : i.kind = k
  · simp [same]
  · simp [same]

theorem item_append (intents intents' : List Intent) (k : IntentKind) :
    item now (intents ++ intents') c k = item now intents c k + item now intents' c k := by
  simp [item]

theorem item_eq_zero {k : IntentKind} (none : ∀ i ∈ intents, i.kind ≠ k) :
    item now intents c k = 0 := by
  have nothing : (intents.filter fun i => i.kind = k) = [] := by
    simpa using none
  rw [item, nothing]
  rfl

theorem asked_of_item_ne_zero {k : IntentKind} (given : item now intents c k ≠ 0) :
    ∃ i ∈ intents, i.kind = k := by
  by_contra none
  push Not at none
  exact given (item_eq_zero none)

/-- Where no two intents are of one kind, an item is what its only intent adds. -/
theorem item_mem (single : (intents.map Intent.kind).Nodup) (k : IntentKind) :
    item now intents c k ∈ 0 :: k.weights := by
  induction intents with
  | nil => exact List.mem_cons_self
  | cons i intents ih =>
    obtain ⟨other, single⟩ := List.nodup_cons.mp single
    rw [item_cons]
    by_cases same : i.kind = k
    · have rest : item now intents c k = 0 := by
        refine item_eq_zero ?_
        rintro j member rfl
        exact other (same ▸ List.mem_map_of_mem member)
      rw [if_pos same, rest, Int.add_zero, ← same]
      exact gain_mem i
    · rw [if_neg same, Int.zero_add]
      exact ih single

/-- Sorted by the kinds that the steps look for, what the intents add is the same. -/
theorem sum_gains_eq_sum_items
    (known : ∀ i ∈ intents, i.kind ∈ [.owner, .time, .warmth, .source, .company, .role]) :
    (intents.map (gain now c)).sum = item now intents c .owner + item now intents c .time +
      item now intents c .warmth + item now intents c .source + item now intents c .company +
      item now intents c .role := by
  induction intents with
  | nil => rfl
  | cons i intents ih =>
    have rest := ih fun j member => known j (List.mem_cons_of_mem _ member)
    have kind := known i List.mem_cons_self
    simp only [List.mem_cons, List.not_mem_nil, or_false] at kind
    rw [List.map_cons, List.sum_cons, rest]
    simp only [item_cons]
    rcases kind with kind | kind | kind | kind | kind | kind
    all_goals
      simp only [kind, reduceCtorEq, if_true, if_false]
      omega

theorem item_owner (now : Timestamp) (intents : List Intent) (c : Contact) :
    item now intents c .owner = 0 := by
  induction intents with
  | nil => rfl
  | cons i intents ih =>
    rw [item_cons, ih, Int.add_zero]
    split
    · rename_i owner
      simpa [owner, IntentKind.weights] using @gain_mem now c i
    · rfl

theorem total_hitPairs (now : Timestamp) (intents : List Intent) (c : Contact) :
    SearchResult.total ((hitPairs now intents c).map (·.2)) = (intents.map (gain now c)).sum := by
  induction intents with
  | nil => rfl
  | cons i intents ih =>
    rw [List.map_cons, List.sum_cons, ← ih]
    unfold hitPairs gain
    cases found : found? now c i with
    | none => simp [found]
    | some m => simp [found]

/-! ## Free text -/

section FreeText

variable {p : ParsedQuery}

theorem textScore_mem (p : ParsedQuery) (c : Contact) :
    p.textScore c ∈ 0 :: IntentKind.weights .name := by
  unfold ParsedQuery.textScore Match.freeText
  split
  · exact List.mem_cons_self
  · cases found : Match.freeText? p.freeText c with
    | none => exact List.mem_cons_self
    | some m => exact List.mem_cons_of_mem _ (Match.score_freeText?_mem found)

/-- The intent on names matches what the free text matches. -/
theorem found?_nameIntent (now : Timestamp) (c : Contact) (text : String) :
    found? now c (nameIntent text) = Match.freeText? text c :=
  rfl

theorem gain_nameIntent (given : p.freeText ≠ "") :
    gain now c (nameIntent p.freeText) = p.textScore c := by
  rw [ParsedQuery.textScore, if_neg given, gain, found?_nameIntent, Match.freeText]
  cases Match.freeText? p.freeText c <;> rfl

theorem total_freeTextMatch? (p : ParsedQuery) (c : Contact) :
    SearchResult.total (freeTextMatch? p.freeText c).toList = p.textScore c := by
  unfold freeTextMatch? ParsedQuery.textScore Match.freeText
  by_cases empty : p.freeText = ""
  · simp [empty]
  · cases found : Match.freeText? p.freeText c with
    | none => simp [empty, Match.nothing]
    | some m => simp [empty]

theorem freeTextScores_of_textScore (scores : 0 < p.textScore c) : p.freeTextScores c = true := by
  unfold ParsedQuery.textScore at scores
  unfold ParsedQuery.freeTextScores
  by_cases empty : p.freeText = ""
  · simp [empty] at scores
  · simpa [empty] using scores

theorem freeText?_of_textScore (scores : 0 < p.textScore c) :
    Match.freeText? p.freeText c = some (Match.freeText p.freeText c) := by
  cases found : Match.freeText? p.freeText c with
  | none => simp [ParsedQuery.textScore, Match.freeText, found, Match.nothing] at scores
  | some m => simp [Match.freeText, found]

end FreeText

/-! ## Results -/

section Results

variable (query : String) (orgs : List String) (sources : List Source)

theorem item_parse (now : Timestamp) (c : Contact) {k : IntentKind} (notName : k ≠ .name) :
    item now (parse query orgs sources).intents c k =
      item now (readSteps query orgs sources).1 c k := by
  have silent : item now (if (parse query orgs sources).freeText.isEmpty then []
      else [nameIntent (parse query orgs sources).freeText]) c k = 0 := by
    refine item_eq_zero ?_
    intro i member
    split at member
    · cases member
    · rw [List.mem_singleton.mp member]
      exact notName.symm
  rw [intents_parse, item_append, silent, Int.add_zero]

theorem item_parse_mem (now : Timestamp) (c : Contact) {k : IntentKind} (notName : k ≠ .name) :
    item now (parse query orgs sources).intents c k ∈ 0 :: k.weights := by
  rw [item_parse query orgs sources now c notName]
  exact item_mem ((kinds_readSteps query orgs sources).nodup (by decide)) k

theorem sum_gains_parse (now : Timestamp) (c : Contact) :
    ((parse query orgs sources).intents.map (gain now c)).sum =
      item now (parse query orgs sources).intents c .time +
      item now (parse query orgs sources).intents c .warmth +
      item now (parse query orgs sources).intents c .source +
      item now (parse query orgs sources).intents c .company +
      item now (parse query orgs sources).intents c .role +
      (parse query orgs sources).textScore c := by
  have steps : ((readSteps query orgs sources).1.map (gain now c)).sum = _ :=
    sum_gains_eq_sum_items fun i member =>
      (kinds_readSteps query orgs sources).subset (List.mem_map_of_mem member)
  rw [item_owner, Int.zero_add] at steps
  have names : ((if (parse query orgs sources).freeText.isEmpty then []
      else [nameIntent (parse query orgs sources).freeText]).map (gain now c)).sum =
        (parse query orgs sources).textScore c := by
    split
    · rename_i empty
      have empty' : (parse query orgs sources).freeText = "" := by simpa using empty
      rw [ParsedQuery.textScore, if_pos empty']
      rfl
    · rename_i given
      rw [List.map_cons, List.map_nil, List.sum_cons, List.sum_nil, Int.add_zero,
        gain_nameIntent (by simpa using given)]
  rw [item_parse _ _ _ now c (by decide), item_parse _ _ _ now c (by decide),
    item_parse _ _ _ now c (by decide), item_parse _ _ _ now c (by decide),
    item_parse _ _ _ now c (by decide), ← steps, intents_parse, List.map_append, List.sum_append,
    names]

/-- Where free text scores, the intent on names is the last one that matches. -/
theorem hitPairs_parse (scores : 0 < (parse query orgs sources).textScore c) :
    hitPairs now (parse query orgs sources).intents c =
      hitPairs now (readSteps query orgs sources).1 c ++
        [(nameIntent (parse query orgs sources).freeText,
          Match.freeText (parse query orgs sources).freeText c)] := by
  have given : (parse query orgs sources).freeText.isEmpty = false := by
    have nonempty := (Bool.and_eq_true _ _).mp (freeTextScores_of_textScore scores)
    simpa using nonempty.1
  rw [intents_parse, given, hitPairs, List.filterMap_append]
  simp [hitPairs, found?_nameIntent, freeText?_of_textScore scores]

theorem total_allMatches_parse (now : Timestamp) (c : Contact) :
    SearchResult.total (allMatches now (parse query orgs sources) c) =
      item now (parse query orgs sources).intents c .time +
      item now (parse query orgs sources).intents c .warmth +
      item now (parse query orgs sources).intents c .source +
      item now (parse query orgs sources).intents c .company +
      item now (parse query orgs sources).intents c .role +
      2 * (parse query orgs sources).textScore c := by
  rw [allMatches, SearchResult.total_append, total_hitPairs, total_freeTextMatch?, sum_gains_parse,
    Int.add_assoc, ← Int.two_mul]

/-- The least item is thirty, and the greatest ones add up to 480. -/
theorem total_allMatches_bounds
    (counted : 0 < SearchResult.total (allMatches now (parse query orgs sources) c)) :
    30 ≤ SearchResult.total (allMatches now (parse query orgs sources) c) ∧
      SearchResult.total (allMatches now (parse query orgs sources) c) ≤ 480 := by
  have time := item_parse_mem query orgs sources now c (k := .time) (by decide)
  have warmth := item_parse_mem query orgs sources now c (k := .warmth) (by decide)
  have source := item_parse_mem query orgs sources now c (k := .source) (by decide)
  have company := item_parse_mem query orgs sources now c (k := .company) (by decide)
  have role := item_parse_mem query orgs sources now c (k := .role) (by decide)
  have text := textScore_mem (parse query orgs sources) c
  simp only [IntentKind.weights, Tier.all, Tier.weight, List.map_cons, List.map_nil, List.mem_cons,
    List.not_mem_nil, or_false] at time warmth source company role text
  rw [total_allMatches_parse] at counted ⊢
  constructor <;> omega

theorem isItemized_resultOf {r : SearchResult}
    (found : resultOf now (parse query orgs sources) c = some r) :
    r.IsItemized now (parse query orgs sources) c := by
  have reports := reports_resultOf found
  unfold resultOf at found
  simp only [Option.ite_none_right_eq_some, Option.some.injEq] at found
  obtain ⟨counted, rfl⟩ := found
  rw [SearchResult.score_ofMatches] at counted
  exact {
    contact := reports.contact
    score := by rw [SearchResult.score_ofMatches, total_allMatches_parse]
    time := item_parse_mem query orgs sources now c (k := .time) (by decide)
    warmth := item_parse_mem query orgs sources now c (k := .warmth) (by decide)
    source := item_parse_mem query orgs sources now c (k := .source) (by decide)
    company := item_parse_mem query orgs sources now c (k := .company) (by decide)
    role := item_parse_mem query orgs sources now c (k := .role) (by decide)
    asked := fun k => asked_of_item_ne_zero
    bounds := by
      rw [SearchResult.score_ofMatches]
      exact total_allMatches_bounds query orgs sources counted
    noOwner := reports.noOwner
    text := by
      intro scores
      simp only [SearchResult.ofMatches, allMatches, hitPairs_parse _ _ _ scores,
        freeTextMatch?_eq, freeTextScores_of_textScore scores, if_true, List.map_append,
        List.map_cons, List.map_nil, Option.toList_some, List.getLast?_concat, List.append_assoc,
        List.cons_append, List.nil_append]
      exact ⟨trivial, _, rfl⟩ }

/-- After the first year of the calendar a search for a query that was read from text always gives
its results, each of which is itemized by the kinds of the intents; a blank query gives none. -/
theorem run_parse_isItemized (late : 2 ≤ now.date.year) (contacts : List Contact) :
    ∃ results, run now (parse query orgs sources) contacts = .ok results ∧
      (∀ r ∈ results, ∃ c ∈ contacts, r.IsItemized now (parse query orgs sources) c) ∧
      ((parse query orgs sources).intents = [] → (parse query orgs sources).freeText = "" →
        results = []) := by
  obtain ⟨results, ran⟩ := run_parse_succeeds late query orgs sources contacts
  refine ⟨results, ran, ?_, ?_⟩
  · intro r member
    obtain ⟨c, listed, found⟩ := (mem_results_iff ran).mp member
    exact ⟨c, listed, isItemized_resultOf query orgs sources found⟩
  · intro noIntents noText
    rw [run_eq_of_isBlank contacts (by simp [isBlank, noIntents, noText])] at ran
    cases ran
    rfl

theorem hotAda_isItemized : 2 ≤ Timestamp.juneMorning.date.year ∧ ∃ r,
    run .juneMorning (parse "hot ada" [] []) [.known "Ada" "Byron" .hot] = .ok [r] ∧
      r.score = 200 ∧
      r.IsItemized .juneMorning (parse "hot ada" [] []) (.known "Ada" "Byron" .hot) := by
  have late : 2 ≤ Timestamp.juneMorning.date.year := by decide
  obtain ⟨results, ran, itemized, -⟩ :=
    run_parse_isItemized "hot ada" [] [] late [.known "Ada" "Byron" .hot]
  have listed : run .juneMorning (parse "hot ada" [] []) [.known "Ada" "Byron" .hot] =
      .ok [⟨1, 200, ["Warmth: Hot", "Name starts with \"ada\"", "Name starts with \"ada\""],
        [warmthIntent "hot" [.hot], nameIntent "ada"]⟩] := by
    decide +kernel
  refine ⟨late, _, listed, rfl, ?_⟩
  rw [listed] at ran
  cases ran
  obtain ⟨c, member, itemized⟩ := itemized _ (List.mem_singleton_self _)
  rw [List.mem_singleton] at member
  exact member ▸ itemized

end Results

end Search

end ContactSearch
