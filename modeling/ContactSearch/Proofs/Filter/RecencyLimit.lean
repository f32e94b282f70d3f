import ContactSearch.Proofs.Filter.Conjunction
import ContactSearch.Proofs.Match.Score
import ContactSearch.Proofs.Recency

/-!
# The filter on recency

A filter on recency takes what was added before its span out of what the other filters keep, for
every number of days but one: a span of no days counts as no filter, so that contacts of any age are
kept as if it were not there.
-/

namespace ContactSearch

open Calendar

namespace Filters

/-- The filters without that on recency. -/
def timeless (f : Filters) : Filters :=
  { f with addedWithinDays := none }

variable {f : Filters} {context : FilterContext} {now : Timestamp} {days : Int}

theorem outcomes_timeless (c : Contact) :
    f.timeless.outcomes context now c = .ok (f.outcomesWith context c .inactive) :=
  outcomes_of_timeless rfl context now c

/-- A span of no days changes nothing. -/
theorem apply_of_no_days (span : f.addedWithinDays = some 0) (contacts : List Contact) :
    f.apply context now contacts = f.timeless.apply context now contacts := by
  have count : f.activeCount context = f.timeless.activeCount context := by
    have unlimited : f.limitsRecency = f.timeless.limitsRecency := by
      rw [limitsRecency, span]
      rfl
    rw [activeCount, unlimited]
    rfl
  have rows : f.outcomes context now = f.timeless.outcomes context now := by
    funext c
    rw [outcomes_timeless, outcomes_eq, checkRecency, span]
    rfl
  have each : f.result? context now = f.timeless.result? context now := by
    funext count c
    rw [result?, result?, rows]
  rw [apply, apply, each, count]

/-- A row with a check of recency that takes part has matched if that check and the others have. -/
theorem allMatched_outcomesWith {c : Contact} {recency : Outcome} (active : recency.isActive = true) :
    Outcome.allMatched (f.outcomesWith context c recency) =
      (Outcome.allMatched (f.outcomesWith context c .inactive) && recency.match?.isSome) := by
  cases recency with
  | inactive => cases active
  | missed => simp [outcomesWith, Outcome.allMatched_cons]
  | matched m => simp [outcomesWith, Outcome.allMatched_cons]

/-- A contact satisfies the filters if it satisfies the others and was added within the span. -/
theorem allMatched_checks_of_span (span : f.addedWithinDays = some days) (nonzero : days ≠ 0)
    {c : Contact} (run : f.outcomes context now c = .ok (f.checks context now c)) :
    Outcome.allMatched (f.checks context now c) =
      (Outcome.allMatched (f.timeless.checks context now c) &&
        decide (now.instant - days * dayLength ≤ c.createdAt.instant)) := by
  rw [checks_eq (outcomes_timeless c)]
  rw [outcomes_eq] at run
  obtain ⟨recency, checked, row⟩ := map_eq_ok.mp run
  cases found : Recency.cutoff now days with
  | error e =>
    have undated : ¬ f.HasStart now := by
      intro dated
      obtain ⟨start, there⟩ := dated days span nonzero
      rw [found] at there
      cases there
    obtain ⟨e, failed⟩ := checkRecency_error undated c
    rw [failed] at checked
    cases checked
  | ok start =>
    rw [checkRecency_of_cutoff span nonzero found] at checked
    cases checked
    rw [← row, ← Recency.eq_of_cutoff found]
    by_cases recent : start ≤ c.createdAt.instant
    · rw [if_pos recent, allMatched_outcomesWith rfl, decide_eq_true recent]
      rfl
    · rw [if_neg recent, allMatched_outcomesWith rfl, decide_eq_false recent]
      rfl

/-- Filters fail where the span of the filter on recency has no start and there is a contact. -/
theorem apply_eq_error_iff_of_span (span : f.addedWithinDays = some days) (contacts : List Contact) :
    (∃ e, f.apply context now contacts = .error e) ↔
      contacts ≠ [] ∧ days ≠ 0 ∧ ∃ e, Recency.HasNoStart now days e := by
  have dated : f.HasStart now ↔ (days ≠ 0 → ∃ start, Recency.cutoff now days = .ok start) := by
    simp [HasStart, span]
  have missing : (∃ e, Recency.HasNoStart now days e) ↔
      ¬ ∃ start, Recency.cutoff now days = .ok start := by
    simp only [← Recency.cutoff_eq_error_iff]
    cases Recency.cutoff now days <;> simp
  rw [apply_eq_error_iff, dated, missing, Classical.not_imp]

/-- The filter on recency, given by any number of days but zero, keeps of what satisfies the other
filters exactly what was added at or after the start of its span, and each result is that of one such
contact; it fails only where the span has no start. A span of no days is not enforced: what the other
filters keep is kept, however old it is. -/
theorem apply_limits_recency (span : f.addedWithinDays = some days) (context : FilterContext)
    (now : Timestamp) (contacts : List Contact) :
    ((∃ e, f.apply context now contacts = .error e) ↔
      contacts ≠ [] ∧ days ≠ 0 ∧ ∃ e, Recency.HasNoStart now days e) ∧
    (days ≠ 0 → ∀ results, f.apply context now contacts = .ok results → ∃ found,
      List.Forall₂ (fun c r => SearchResult.Explains context c (f.checks context now c) r)
        (contacts.filter fun c => Outcome.allMatched (f.timeless.checks context now c) &&
          decide (now.instant - days * dayLength ≤ c.createdAt.instant)) found ∧
      IsRanking found results) ∧
    (days = 0 → f.apply context now contacts = f.timeless.apply context now contacts) := by
  refine ⟨apply_eq_error_iff_of_span span contacts, ?_, ?_⟩
  · intro nonzero results run
    have active : f.activeCount context ≠ 0 := by
      intro idle
      have inactive := List.count_eq_zero.mp idle
      simp [limitsRecency, span, nonzero] at inactive
    have each := outcomes_of_apply run
    rw [apply_eq_ranked (f.checks context now) active each] at run
    cases run
    refine ⟨_, ?_, SearchResult.isRanking_ranked _⟩
    rw [← List.filter_congr fun c member => allMatched_checks_of_span span nonzero (each c member),
      List.forall₂_map_right_iff, List.forall₂_same]
    intro c member
    exact SearchResult.explains_ofMatches (List.mem_filter.mp member).2
  · rintro rfl
    exact apply_of_no_days span contacts

/-- Filters that ask for hot contacts added within so many days. -/
def hotWithin (days : Int) : Filters :=
  { empty with warmth := some [2], addedWithinDays := some days }

/-- Two hot contacts, entered on June 10 and on May 10. -/
def juneAndMay : List Contact :=
  [.known "Ada" "Byron" .hot, { Contact.known "Grace" "Hopper" .hot with
    id := 2, createdAt := ⟨⟨2024, 5, 10, by decide⟩, .midnight, some .utc⟩ }]

theorem hotWithin_week_limits_recency : (hotWithin 7).addedWithinDays = some 7 ∧ (7 : Int) ≠ 0 ∧
    (hotWithin 7).apply .empty .juneMorning juneAndMay =
      .ok [⟨1, 70, ["Warmth: Hot", "Added within last 7 days"], []⟩] ∧
    ∃ found, List.Forall₂ (fun c r => SearchResult.Explains .empty c
        ((hotWithin 7).checks .empty .juneMorning c) r) [.known "Ada" "Byron" .hot] found ∧
      IsRanking found [⟨1, 70, ["Warmth: Hot", "Added within last 7 days"], []⟩] := by
  have run : (hotWithin 7).apply .empty .juneMorning juneAndMay =
      .ok [⟨1, 70, ["Warmth: Hot", "Added within last 7 days"], []⟩] := by
    decide +kernel
  have recent : (juneAndMay.filter fun c =>
      Outcome.allMatched ((hotWithin 7).timeless.checks .empty .juneMorning c) &&
        decide (Timestamp.juneMorning.instant - 7 * dayLength ≤ c.createdAt.instant)) =
      [.known "Ada" "Byron" .hot] := by
    decide
  obtain ⟨-, limits, -⟩ := apply_limits_recency (f := hotWithin 7) rfl .empty .juneMorning juneAndMay
  obtain ⟨found, each, ranking⟩ := limits (by decide) _ run
  rw [recent] at each
  exact ⟨rfl, by decide, run, found, each, ranking⟩

/-- A contact of June 10 is listed among those added within no days before June 15. -/
theorem hotWithin_noDays_lists_older :
    (hotWithin 0).apply .empty .juneMorning [.known "Ada" "Byron" .hot] =
        .ok [⟨1, 40, ["Warmth: Hot"], []⟩] ∧
      ¬ Timestamp.juneMorning.instant - 0 * dayLength ≤
        (Contact.known "Ada" "Byron" .hot).createdAt.instant := by
  constructor
  · decide +kernel
  · decide

end Filters

end ContactSearch
