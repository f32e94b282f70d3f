import ContactSearch.Match.Intent
import ContactSearch.Proofs.Filter.Conjunction
import ContactSearch.Proofs.Match.Score
import ContactSearch.Proofs.Text.Numeral

/-!
# One scoring model for filters and intents

A filter that stands alone keeps a contact exactly when the intent that asks for the same matches
it, with the same score, and fails exactly when that intent fails. Each side has its own table of
scores and its own checks, and the two are written down in different ways: levels of warmth are a
list of integers here and a text with commas there, a span of days is an integer here and its decimal
text there. Names are the exception: free text also looks beyond the name, so the filter on names
agrees with the tiers of free text from sixty on.
-/

namespace ContactSearch

open Calendar Text

@[simp] theorem Outcome.match?_ofMatch? (m : Option Match) : (Outcome.ofMatch? m).match? = m := by
  cases m <;> rfl

namespace Match

/-- The filter on companies finds what the intent on a company finds, for the same reasons. -/
theorem atCompany?_eq_company? (text : String) (c : Contact) :
    Filters.atCompany? text c = company? text c := by
  unfold Filters.atCompany? company?
  cases nonEmpty? c.org with
  | none => rfl
  | some org => simp only [FilterScore.points, IntentScore.points]

/-- The filter on titles gives another reason than the intent on a role, and the same score. -/
theorem score_titled?_eq_role? (text : String) (c : Contact) :
    (Filters.titled? text c).map score = (role? text c).map score := by
  unfold Filters.titled? role?
  cases nonEmpty? c.title with
  | none => rfl
  | some title =>
    by_cases found : contains text.lowered title.lowered <;> simp [Option.filter, found]

/-- The filter on levels of warmth finds what the intent on these levels finds. -/
theorem warm?_eq_warmth? (levels : List Int) (c : Contact) :
    Filters.warm? levels c = warmth? levels c := by
  simp only [Filters.warm?, warmth?, FilterScore.points, IntentScore.points]

end Match

namespace Tier

/-- The tiers of free text that look at the name. -/
def ofName : List Tier :=
  [nameExact, nameStart, nameInside]

/-- They are those that score sixty or more. -/
theorem ofName_eq_filter : ofName = all.filter fun tier => 60 ≤ tier.weight := by
  decide

theorem all_eq_append : all = ofName ++ [email, title, org, location] :=
  rfl

end Tier

namespace Match

variable {text : String} {c : Contact}

/-- The filter on names tries the tiers of the name, in the order in which free text tries them. -/
theorem named?_eq_find? (text : String) (c : Contact) : Filters.named? text c =
    (Tier.ofName.find? (Tier.applies text.lowered c)).map (Tier.toMatch text) := by
  have tried : Tier.ofName.find? (Tier.applies text.lowered c) =
      if Tier.applies text.lowered c .nameExact then some .nameExact
      else if Tier.applies text.lowered c .nameStart then some .nameStart
      else if Tier.applies text.lowered c .nameInside then some .nameInside else none := by
    simp only [Tier.ofName, List.find?_cons, List.find?_nil]
    cases Tier.applies text.lowered c .nameExact <;>
      cases Tier.applies text.lowered c .nameStart <;>
        cases Tier.applies text.lowered c .nameInside <;> rfl
  rw [tried, apply_ite (Option.map _), apply_ite (Option.map _), apply_ite (Option.map _)]
  rfl

/-- Text that is found in the name scores as free text does; elsewhere free text scores less. -/
theorem score_named?_eq_freeText (text : String) (c : Contact) :
    (Filters.named? text c).map score =
      if 60 ≤ (freeText text c).score then some (freeText text c).score else none := by
  rw [named?_eq_find?]
  cases found : Tier.ofName.find? (Tier.applies text.lowered c) with
  | some tier =>
    have high : 60 ≤ tier.weight := by
      have listed := List.mem_of_find?_eq_some found
      rw [Tier.ofName_eq_filter, List.mem_filter] at listed
      exact of_decide_eq_true listed.2
    have first : Tier.all.find? (Tier.applies text.lowered c) = some tier := by
      rw [Tier.all_eq_append, List.find?_append, found, Option.some_or]
    simp [freeText, freeText?, first, Tier.toMatch, high]
  | none =>
    have later : Tier.all.find? (Tier.applies text.lowered c) =
        [Tier.email, .title, .org, .location].find? (Tier.applies text.lowered c) := by
      rw [Tier.all_eq_append, List.find?_append, found, Option.none_or]
    have low : ∀ tier ∈ [Tier.email, .title, .org, .location], ¬ 60 ≤ tier.weight := by
      decide
    cases rest : [Tier.email, .title, .org, .location].find? (Tier.applies text.lowered c) with
    | none => simp [freeText, freeText?, later, rest, nothing]
    | some tier =>
      have less := low tier (List.mem_of_find?_eq_some rest)
      simp [freeText, freeText?, later, rest, Tier.toMatch, less]

/-- A filter on one tag and the intent on that tag look for the same tags. -/
theorem score_tagged?_singleton (text : String) (c : Contact) :
    (Filters.tagged? [text] c).map score = (tag? text c).map score := by
  unfold Filters.tagged? Filters.foundTags tag?
  cases found : c.tags.find? fun tag => contains text.lowered tag.lowered with
  | none =>
    have none : (c.tags.any fun tag => contains text.lowered tag.lowered) = false := by
      simpa using found
    simp [none]
  | some tag =>
    have inTag := List.find?_some found
    have some : (c.tags.any fun tag => contains text.lowered tag.lowered) = true :=
      List.any_eq_true.mpr ⟨tag, List.mem_of_find?_eq_some found, inTag⟩
    simp [some]

end Match

@[simp] theorem isGiven_none : isGiven none = false := rfl

theorem isGiven_some {text : String} (given : text ≠ "") : isGiven (some text) = true := by
  simp [isGiven, given]

@[simp] theorem isGivenList_none {α : Type} : isGivenList (none : Option (List α)) = false := rfl

theorem isGivenList_some {α : Type} {items : List α} (given : items ≠ []) :
    isGivenList (some items) = true := by
  simp [isGivenList, given]

namespace Filters

section Checks

variable {α : Type} {now : Timestamp} {c : Contact}

@[simp] theorem checkText_none (check : String → Option Match) : checkText none check = .inactive :=
  rfl

theorem checkText_some {text : String} (given : text ≠ "") (check : String → Option Match) :
    checkText (some text) check = .ofMatch? (check text) := by
  simp [checkText, nonEmpty?, Option.filter, given]

@[simp] theorem checkList_none (check : List α → Option Match) :
    checkList none check = .inactive :=
  rfl

theorem checkList_some {items : List α} (given : items ≠ []) (check : List α → Option Match) :
    checkList (some items) check = .ofMatch? (check items) := by
  simp [checkList, Option.filter, given]

/-- What is said of a contact within the span of the recency filter differs from what is said of it
for an intent on time, but it scores the same. -/
theorem checkRecency_eq_added? {f : Filters} {days : Int} (span : f.addedWithinDays = some days)
    (nonzero : days ≠ 0) :
    (f.checkRecency now c).map (fun o => o.match?.map Match.score) =
      (Match.added? now days c).map (Option.map Match.score) := by
  unfold checkRecency Match.added?
  rw [span, show (some days).filter (· != 0) = some days by simp [Option.filter, nonzero]]
  dsimp only
  cases Recency.within now days c.createdAt with
  | error e => rfl
  | ok recent => cases recent <;> rfl

end Checks

/-- Filters and an intent that ask for the same thing. -/
inductive AsksAs : Filters → Intent → Prop
  | company {name label : String} (given : name ≠ "") :
    AsksAs { empty with company := some name } ⟨.company, name, label⟩
  | source {name label : String} (given : name ≠ "") :
    AsksAs { empty with source := some name } ⟨.source, name, label⟩
  | title {role label : String} (given : role ≠ "") :
    AsksAs { empty with title := some role } ⟨.role, role, label⟩
  | warmth {levels : List Int} {label : String} (given : levels ≠ [])
    (short : ∀ n ∈ levels, IsShort n) :
    AsksAs { empty with warmth := some levels }
      ⟨.warmth, ",".intercalate (levels.map fun n => String.ofList (intText n)), label⟩
  | recency {days : Int} {label : String} (given : days ≠ 0) (short : IsShort days) :
    AsksAs { empty with addedWithinDays := some days } ⟨.time, String.ofList (intText days), label⟩
  | tag {text label : String} : AsksAs { empty with tags := some [text] } ⟨.tag, text, label⟩

section Single

variable {f : Filters} {context : FilterContext} {now : Timestamp} {c : Contact}

/-- The only active filter decides alone. -/
theorem apply_of_single {found : Except RecencyError (Option Match)}
    (single : f.activeCount context = 1)
    (run : (f.outcomes context now c).map (List.filterMap Outcome.match?) =
      found.map Option.toList) :
    f.apply context now [c] = found.map fun m =>
      (m.map fun m => SearchResult.ofMatches c.id [m] context.intents).toList := by
  have active : f.activeCount context ≠ 0 := by omega
  cases checked : f.outcomes context now c with
  | error e =>
    rw [checked] at run
    rw [apply_singleton_error active checked]
    cases found with
    | error e' => cases run; rfl
    | ok m => cases run
  | ok outcomes =>
    rw [checked] at run
    cases found with
    | error e => cases run
    | ok m =>
      have told : outcomes.filterMap Outcome.match? = m.toList := Except.ok.inj run
      have satisfied := Outcome.length_matches_eq_iff outcomes
      rw [countP_outcomes checked, single, told] at satisfied
      rw [apply_singleton active checked, told]
      cases m with
      | none => simp [← satisfied, Except.map]
      | some m => simp [← satisfied, Except.map]

/-- What a single filter says of a contact follows from the score of its match. -/
theorem scores_apply_of_single (found : Except RecencyError (Option Match))
    {score : Except RecencyError (Option Int)} (single : f.activeCount context = 1)
    (run : (f.outcomes context now c).map (List.filterMap Outcome.match?) = found.map Option.toList)
    (scored : found.map (Option.map Match.score) = score) :
    (f.apply context now [c]).map (List.map fun r => (r.contactId, r.score)) =
      score.map fun s => (s.map fun s => (c.id, s)).toList := by
  rw [apply_of_single single run, ← scored]
  cases found with
  | error e => rfl
  | ok m => cases m <;> simp [Except.map, SearchResult.ofMatches]

end Single

/-- The matches of all checks where no filter on recency is given and there is no data beside the
filters. -/
theorem matches_outcomes {f : Filters} (timeless : f.addedWithinDays = none) (now : Timestamp)
    (c : Contact) : (f.outcomes .empty now c).map (List.filterMap Outcome.match?) =
      .ok ((f.outcomesWith .empty c .inactive).filterMap Outcome.match?) := by
  rw [outcomes_of_timeless timeless]
  rfl

/-- A filter that stands alone keeps a contact with the score that the intent gives it, and fails
where the intent fails. -/
theorem scores_apply_of_asksAs {f : Filters} {i : Intent} (same : AsksAs f i) (now : Timestamp)
    (c : Contact) : (f.apply .empty now [c]).map (List.map fun r => (r.contactId, r.score)) =
      ((Match.intent? now i c).map (Option.map Match.score)).map fun s =>
        (s.map fun s => (c.id, s)).toList := by
  cases same with
  | @company name label given =>
    refine scores_apply_of_single (.ok (atCompany? name c)) ?_ ?_ ?_
    · simp [activeCount, empty, limitsRecency, namesDeals, isGiven_some given]
    · rw [matches_outcomes rfl]
      simp only [outcomesWith, empty, checkText_some given]
      cases atCompany? name c <;> rfl
    · rw [Match.atCompany?_eq_company?]
      rfl
  | @source name label given =>
    refine scores_apply_of_single (.ok (Match.source? c.source name)) ?_ ?_ rfl
    · simp [activeCount, empty, limitsRecency, namesDeals, isGiven_some given]
    · rw [matches_outcomes rfl]
      simp only [outcomesWith, empty, checkText_some given]
      cases Match.source? c.source name <;> rfl
  | @title role label given =>
    refine scores_apply_of_single (.ok (titled? role c)) ?_ ?_
      (congrArg Except.ok (Match.score_titled?_eq_role? role c))
    · simp [activeCount, empty, limitsRecency, namesDeals, isGiven_some given]
    · rw [matches_outcomes rfl]
      simp only [outcomesWith, empty, checkText_some given]
      cases titled? role c <;> rfl
  | @warmth levels label given short =>
    have listed : Match.levels? (",".intercalate (levels.map fun n => String.ofList (intText n))) =
      some levels := mapM_readInt?_split given short
    refine scores_apply_of_single (.ok (warm? levels c)) ?_ ?_ ?_
    · simp [activeCount, empty, limitsRecency, namesDeals, isGivenList_some given]
    · rw [matches_outcomes rfl]
      simp only [outcomesWith, empty, checkList_some given]
      cases warm? levels c <;> rfl
    · rw [Match.warm?_eq_warmth?]
      simp only [Match.intent?, listed, Option.bind_some]
  | @recency days label given short =>
    have read : Match.time? now (String.ofList (intText days)) c = Match.added? now days c := by
      rw [Match.time?, String.toList_ofList, readInt?_intText short]
    rw [Match.intent?, read, ← checkRecency_eq_added? (f := { empty with addedWithinDays := some days })
      rfl given]
    refine scores_apply_of_single ((checkRecency { empty with addedWithinDays := some days }
      now c).map Outcome.match?) ?_ ?_ ?_
    · have counts : (days != 0) = true := by simpa using given
      simp [activeCount, empty, limitsRecency, namesDeals, counts]
    · rw [outcomes_eq]
      cases checkRecency { empty with addedWithinDays := some days } now c with
      | error e => rfl
      | ok o => cases o <;> rfl
    · cases checkRecency { empty with addedWithinDays := some days } now c <;> rfl
  | @tag text label =>
    have given : [text] ≠ [] := List.cons_ne_nil text []
    refine scores_apply_of_single (.ok (tagged? [text] c)) ?_ ?_
      (congrArg Except.ok (Match.score_tagged?_singleton text c))
    · simp [activeCount, empty, limitsRecency, namesDeals, isGivenList_some given]
    · rw [matches_outcomes rfl]
      simp only [outcomesWith, empty, checkList_some given]
      cases tagged? [text] c <;> rfl

/-- The filter on names alone agrees with free text that scores sixty or more. -/
theorem scores_apply_name {name : String} (given : name ≠ "") (now : Timestamp) (c : Contact) :
    (({ empty with name := some name } : Filters).apply .empty now [c]).map
        (List.map fun r => (r.contactId, r.score)) =
      .ok (if 60 ≤ (Match.freeText name c).score then [(c.id, (Match.freeText name c).score)]
        else []) := by
  rw [scores_apply_of_single (.ok (named? name c)) ?_ ?_
    (congrArg Except.ok (Match.score_named?_eq_freeText name c))]
  · refine congrArg Except.ok ?_
    split <;> rfl
  · simp [activeCount, empty, limitsRecency, namesDeals, isGiven_some given]
  · rw [matches_outcomes rfl]
    simp only [outcomesWith, empty, checkText_some given]
    cases named? name c <;> rfl

/-- Filters and intents share one scoring model: of every contact, a filter that stands alone and the
intent that asks for the same say the same, with the same score or the same error, and a filter on
the name says what free text says that scores sixty or more. -/
theorem apply_scores_as_intent (now : Timestamp) (c : Contact) :
    (∀ f i, AsksAs f i → (f.apply .empty now [c]).map (List.map fun r => (r.contactId, r.score)) =
      (Match.intent? now i c).map fun m => (m.map fun m => (c.id, m.score)).toList) ∧
    ∀ name, name ≠ "" → (({ empty with name := some name } : Filters).apply .empty now [c]).map
        (List.map fun r => (r.contactId, r.score)) =
      .ok (if 60 ≤ (Match.freeText name c).score then [(c.id, (Match.freeText name c).score)]
        else []) := by
  constructor
  · intro f i same
    rw [scores_apply_of_asksAs same]
    cases Match.intent? now i c with
    | error e => rfl
    | ok m => cases m <;> rfl
  · intro name given
    exact scores_apply_name given now c

theorem hotAndAda_score_as_intent :
    AsksAs { empty with warmth := some [2, -13] } ⟨.warmth, "2,-13", "Warmth: hot"⟩ ∧
      (({ empty with warmth := some [2, -13] } : Filters).apply .empty .juneMorning
          [.known "Ada" "Byron" .hot]).map (List.map fun r => (r.contactId, r.score)) =
        .ok [(1, 40)] ∧
      "ADA" ≠ "" ∧
      (({ empty with name := some "ADA" } : Filters).apply .empty .juneMorning
          [.known "Ada" "Byron" .hot]).map (List.map fun r => (r.contactId, r.score)) =
        .ok [(1, 80)] := by
  have joined : ",".intercalate ([2, -13].map fun n => String.ofList (intText n)) = "2,-13" := by
    decide
  have same : AsksAs { empty with warmth := some [2, -13] } ⟨.warmth, "2,-13", "Warmth: hot"⟩ := by
    rw [← joined]
    exact .warmth (by decide) (by decide)
  have shared := apply_scores_as_intent .juneMorning (.known "Ada" "Byron" .hot)
  refine ⟨same, ?_, by decide, ?_⟩
  · rw [shared.1 _ _ same]
    decide
  · rw [shared.2 "ADA" (by decide)]
    decide

end Filters

end ContactSearch
