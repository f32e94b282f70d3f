import ContactSearch.Filter.Apply
import Mathlib.Tactic.ByContra

/-!
# Active checks

A filter is said to be given in two ways: the count of active filters looks at the filters and at
the data beside them, and each check decides for itself whether it takes part. Here both are shown
to agree: at every contact as many checks are active as the count says. It follows that a contact
yields as many matches as there are active filters exactly when every active check matched.
-/

namespace ContactSearch

open Calendar Text

namespace Outcome

@[simp] theorem isActive_inactive : inactive.isActive = false := rfl

@[simp] theorem isActive_missed : missed.isActive = true := rfl

@[simp] theorem isActive_matched (m : Match) : (matched m).isActive = true := rfl

@[simp] theorem match?_inactive : inactive.match? = none := rfl

@[simp] theorem match?_missed : missed.match? = none := rfl

@[simp] theorem match?_matched (m : Match) : (matched m).match? = some m := rfl

@[simp] theorem isActive_ofMatch? (m : Option Match) : (ofMatch? m).isActive = true := by
  cases m <;> rfl

/-- Every check that takes part matched. -/
def allMatched (outcomes : List Outcome) : Bool :=
  (outcomes.filter isActive).all fun o => o.match?.isSome

@[simp] theorem allMatched_nil : allMatched [] = true := rfl

theorem allMatched_cons (o : Outcome) (outcomes : List Outcome) :
    allMatched (o :: outcomes) = ((!o.isActive || o.match?.isSome) && allMatched outcomes) := by
  cases o <;> simp [allMatched]

theorem length_matches_le (outcomes : List Outcome) :
    (outcomes.filterMap match?).length ≤ outcomes.countP isActive := by
  induction outcomes with
  | nil => simp
  | cons o outcomes ih =>
    cases o with
    | inactive => simpa [List.filterMap_cons, List.countP_cons] using ih
    | missed => simpa [List.filterMap_cons, List.countP_cons] using Nat.le_succ_of_le ih
    | matched m => simpa [List.filterMap_cons, List.countP_cons] using ih

/-- A missed check is one match fewer than there are active checks, and nothing makes up for it. -/
theorem length_matches_eq_iff (outcomes : List Outcome) :
    (outcomes.filterMap match?).length = outcomes.countP isActive ↔ allMatched outcomes = true := by
  induction outcomes with
  | nil => simp
  | cons o outcomes ih =>
    rw [allMatched_cons]
    cases o with
    | inactive => simpa [List.filterMap_cons, List.countP_cons] using ih
    | missed =>
      have fewer := Nat.lt_succ_of_le (length_matches_le outcomes)
      simpa [List.filterMap_cons, List.countP_cons] using Nat.ne_of_lt fewer
    | matched m => simpa [List.filterMap_cons, List.countP_cons] using ih

theorem filter_isActive_of_allMatched {outcomes : List Outcome} (h : allMatched outcomes = true) :
    outcomes.filter isActive = (outcomes.filterMap match?).map matched := by
  induction outcomes with
  | nil => rfl
  | cons o outcomes ih =>
    rw [allMatched_cons, Bool.and_eq_true] at h
    cases o with
    | inactive => simpa [List.filterMap_cons, List.filter_cons] using ih h.2
    | missed => simp at h
    | matched m => simpa [List.filterMap_cons, List.filter_cons] using ih h.2

/-- Where every check that takes part matched, so did each one of them. -/
theorem exists_match_of_allMatched {o : Outcome} {outcomes : List Outcome}
    (satisfied : allMatched outcomes = true) (member : o ∈ outcomes) (active : o.isActive = true) :
    ∃ m, o = .matched m := by
  have found := List.all_eq_true.mp satisfied o (List.mem_filter.mpr ⟨member, active⟩)
  cases o with
  | inactive => cases active
  | missed => cases found
  | matched m => exact ⟨m, rfl⟩

end Outcome

theorem isSome_nonEmpty? (s : Option String) : (nonEmpty? s).isSome = isGiven s := by
  cases s with
  | none => rfl
  | some s => by_cases h : s.isEmpty <;> simp [nonEmpty?, isGiven, Option.filter, h]

namespace Filters

theorem isActive_checkText (given : Option String) (check : String → Option Match) :
    (checkText given check).isActive = isGiven given := by
  rw [← isSome_nonEmpty?, checkText]
  cases nonEmpty? given with
  | none => rfl
  | some text => simp

theorem isActive_checkList {α : Type} (given : Option (List α)) (check : List α → Option Match) :
    (checkList given check).isActive = isGivenList given := by
  cases given with
  | none => rfl
  | some items => cases items <;> simp [checkList, isGivenList, Option.filter]

theorem isActive_checkSector (f : Filters) (context : FilterContext) (c : Contact) :
    (f.checkSector context c).isActive = (isGiven f.orgSector && context.sectors.isSome) := by
  unfold checkSector
  cases context.sectors with
  | none => simp
  | some map => simp [isActive_checkText]

theorem isActive_checkDeals (f : Filters) (context : FilterContext) (c : Contact) :
    (f.checkDeals context c).isActive = (f.namesDeals && context.matchedIds.isSome) := by
  unfold checkDeals
  cases context.matchedIds with
  | none => simp
  | some ids =>
    by_cases deals : f.namesDeals
    · by_cases found : c.id ∈ ids <;> simp [deals, found]
    · simp [deals]

/-- The recency filter, if it is given, reaches back to a moment that can be named. -/
def HasStart (f : Filters) (now : Timestamp) : Prop :=
  ∀ days, f.addedWithinDays = some days → days ≠ 0 → ∃ start, Recency.cutoff now days = .ok start

theorem checkRecency_of_cutoff {f : Filters} {now : Timestamp} {days start : Int}
    (span : f.addedWithinDays = some days) (nonzero : days ≠ 0)
    (found : Recency.cutoff now days = .ok start) (c : Contact) :
    f.checkRecency now c = .ok (if start ≤ c.createdAt.instant then
      .matched ⟨30, "Added within last " ++ String.ofList (intText days) ++ " days"⟩
      else .missed) := by
  unfold checkRecency
  by_cases recent : start ≤ c.createdAt.instant
  all_goals simp [span, Option.filter, nonzero, Recency.within, found, recent, bind, Except.bind,
    pure, Except.pure]

theorem checkRecency_ok {f : Filters} {now : Timestamp} (dated : f.HasStart now) (c : Contact) :
    ∃ o, f.checkRecency now c = .ok o ∧ o.isActive = f.limitsRecency := by
  cases span : f.addedWithinDays with
  | none => exact ⟨.inactive, by simp [checkRecency, span], by simp [limitsRecency, span]⟩
  | some days =>
    by_cases zero : days = 0
    · refine ⟨.inactive, ?_, by simp [limitsRecency, span, zero]⟩
      simp [checkRecency, span, zero, Option.filter]
    · obtain ⟨start, found⟩ := dated days span zero
      refine ⟨_, checkRecency_of_cutoff span zero found c, ?_⟩
      split <;> simp [limitsRecency, span, zero]

theorem checkRecency_error {f : Filters} {now : Timestamp} (undated : ¬ f.HasStart now)
    (c : Contact) : ∃ e, f.checkRecency now c = .error e := by
  simp only [HasStart, Classical.not_forall] at undated
  obtain ⟨days, span, nonzero, none⟩ := undated
  unfold checkRecency
  cases found : Recency.cutoff now days with
  | ok start => exact absurd ⟨start, found⟩ none
  | error e =>
    refine ⟨e, ?_⟩
    simp [span, Option.filter, nonzero, Recency.within, found, bind, Except.bind]

/-- The outcomes of all checks, given that of the check of recency. -/
def outcomesWith (f : Filters) (context : FilterContext) (c : Contact) (recency : Outcome) :
    List Outcome :=
  [checkText f.company (atCompany? · c), checkText f.name (named? · c),
    checkText f.title (titled? · c), checkText f.source (Match.source? c.source ·),
    checkList f.warmth (warm? · c), recency, checkText f.location (atLocation? · c),
    checkText f.email (atEmail? · c), checkList f.tags (tagged? · c),
    checkList f.orgKind (ofOrgKind? · c), checkSector f context c, checkDeals f context c]

theorem outcomes_eq (f : Filters) (context : FilterContext) (now : Timestamp) (c : Contact) :
    f.outcomes context now c = (f.checkRecency now c).map (f.outcomesWith context c) := by
  unfold outcomes
  cases f.checkRecency now c <;> rfl

/-- Without a filter on recency no check fails. -/
theorem outcomes_of_timeless {f : Filters} (timeless : f.addedWithinDays = none)
    (context : FilterContext) (now : Timestamp) (c : Contact) :
    f.outcomes context now c = .ok (f.outcomesWith context c .inactive) := by
  rw [outcomes_eq, checkRecency, timeless]
  rfl

/-- Both ways of telling which filters are given agree, whatever the contact is. -/
theorem countP_outcomes {f : Filters} {context : FilterContext} {now : Timestamp} {c : Contact}
    {outcomes : List Outcome} (run : f.outcomes context now c = .ok outcomes) :
    outcomes.countP Outcome.isActive = f.activeCount context := by
  have dated : f.HasStart now := by
    by_contra undated
    obtain ⟨e, failed⟩ := checkRecency_error undated c
    rw [outcomes_eq, failed] at run
    cases run
  obtain ⟨o, found, active⟩ := checkRecency_ok dated c
  rw [outcomes_eq, found] at run
  cases run
  simp only [outcomesWith, activeCount, List.count, List.countP_cons, isActive_checkText,
    isActive_checkList, isActive_checkSector, isActive_checkDeals, active, beq_true,
    List.countP_nil]

end Filters

end ContactSearch
