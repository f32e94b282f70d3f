import ContactSearch.Proofs.Filter.Activity
import ContactSearch.Proofs.Ranking
import ContactSearch.Proofs.Traversal

/-!
# Filters as a conjunction

Applying filters keeps exactly the contacts at which every active check matched. The main statement
says when no list comes back at all, which contacts are listed, what each result tells, and in
which order the results stand.
-/

namespace ContactSearch

open Calendar

/-- The kind of a chip is the name of some kind of intents. -/
def Chip.isKnown (chip : Chip) : Bool :=
  IntentKind.all.any fun k => k.code == chip.kind

/-- An intent that shows a chip: the same kind and label, and no value. -/
structure Intent.Shows (chip : Chip) (i : Intent) : Prop where
  kind : i.kind.code = chip.kind
  value : i.value = ""
  label : i.label = chip.label

/-- A result that tells why a contact satisfies every active filter. -/
structure SearchResult.Explains (context : FilterContext) (c : Contact) (outcomes : List Outcome)
    (r : SearchResult) : Prop where
  contact : r.contactId = c.id
  score : r.score = ((outcomes.filterMap Outcome.match?).map Match.score).sum
  /-- One reason for each active filter, in the order of the checks. -/
  reasons : List.Forall₂ (fun o reason => ∃ score, o = .matched ⟨score, reason⟩)
    (outcomes.filter Outcome.isActive) r.reasons
  intents : List.Forall₂ Intent.Shows (context.chips.filter Chip.isKnown) r.intents

theorem forall₂_intents (context : FilterContext) :
    List.Forall₂ Intent.Shows (context.chips.filter Chip.isKnown) context.intents := by
  unfold FilterContext.intents
  induction context.chips with
  | nil => exact .nil
  | cons chip chips ih =>
    cases found : IntentKind.ofCode? chip.kind with
    | none =>
      have unknown : chip.isKnown = false := by
        simpa [Chip.isKnown, IntentKind.ofCode?] using found
      simpa [found, unknown] using ih
    | some k =>
      have code : k.code = chip.kind := by simpa using List.find?_some found
      have known : chip.isKnown = true :=
        List.any_eq_true.mpr ⟨k, List.mem_of_find?_eq_some found, by simp [code]⟩
      rw [List.filter_cons_of_pos known]
      simpa [found] using List.Forall₂.cons ⟨code, rfl, rfl⟩ ih

namespace SearchResult

theorem explains_ofMatches {context : FilterContext} {c : Contact} {outcomes : List Outcome}
    (satisfied : Outcome.allMatched outcomes = true) :
    Explains context c outcomes
      (ofMatches c.id (outcomes.filterMap Outcome.match?) context.intents) where
  contact := rfl
  score := total_eq_sum _
  reasons := by
    rw [Outcome.filter_isActive_of_allMatched satisfied, List.forall₂_map_left_iff]
    simp only [ofMatches, List.forall₂_map_right_iff, List.forall₂_same]
    intro m _
    exact ⟨m.score, rfl⟩
  intents := forall₂_intents context

end SearchResult

namespace Filters

theorem exists_outcomes {f : Filters} {now : Timestamp} (dated : f.HasStart now)
    (context : FilterContext) (c : Contact) : ∃ outcomes, f.outcomes context now c = .ok outcomes := by
  obtain ⟨o, found, -⟩ := checkRecency_ok dated c
  exact ⟨_, by rw [outcomes_eq, found]; rfl⟩

theorem outcomes_error {f : Filters} {now : Timestamp} (undated : ¬ f.HasStart now)
    (context : FilterContext) (c : Contact) : ∃ e, f.outcomes context now c = .error e := by
  obtain ⟨e, failed⟩ := checkRecency_error undated c
  exact ⟨e, by rw [outcomes_eq, failed]; rfl⟩

/-- Without an active filter no span is given, so there is no start to miss. -/
theorem hasStart_of_activeCount {f : Filters} {context : FilterContext} (now : Timestamp)
    (idle : f.activeCount context = 0) : f.HasStart now := by
  intro days span nonzero
  have inactive := (List.count_eq_zero.mp idle)
  simp [limitsRecency, span, nonzero] at inactive

theorem result?_eq {f : Filters} {context : FilterContext} {now : Timestamp} {c : Contact}
    {outcomes : List Outcome} (run : f.outcomes context now c = .ok outcomes) :
    f.result? context now (f.activeCount context) c = .ok (if Outcome.allMatched outcomes then
      some (SearchResult.ofMatches c.id (outcomes.filterMap Outcome.match?) context.intents)
      else none) := by
  unfold result?
  rw [run, ← countP_outcomes run]
  simp only [bind, Except.bind, pure, Except.pure, Outcome.length_matches_eq_iff]

theorem apply_of_idle {f : Filters} {context : FilterContext} (now : Timestamp)
    (contacts : List Contact) (idle : f.activeCount context = 0) :
    f.apply context now contacts = .ok [] := by
  simp [apply, idle, pure, Except.pure]

theorem apply_of_active {f : Filters} {context : FilterContext} {now : Timestamp}
    {contacts : List Contact} (active : f.activeCount context ≠ 0) :
    f.apply context now contacts =
      (contacts.mapM (f.result? context now (f.activeCount context))).map fun results =>
        SearchResult.ranked (results.filterMap id) := by
  unfold apply
  rw [if_neg active]
  cases contacts.mapM (f.result? context now (f.activeCount context)) <;> rfl

theorem apply_eq_error_iff (f : Filters) (context : FilterContext) (now : Timestamp)
    (contacts : List Contact) :
    (∃ e, f.apply context now contacts = .error e) ↔ contacts ≠ [] ∧ ¬ f.HasStart now := by
  by_cases idle : f.activeCount context = 0
  · have dated := hasStart_of_activeCount now idle
    simp [apply_of_idle now contacts idle, dated]
  · constructor
    · rintro ⟨e, failed⟩
      have stuck : ∃ e, contacts.mapM (f.result? context now (f.activeCount context)) = .error e := by
        rw [apply_of_active idle] at failed
        cases run : contacts.mapM (f.result? context now (f.activeCount context)) with
        | error e => exact ⟨e, rfl⟩
        | ok results => rw [run] at failed; cases failed
      obtain ⟨c, member, e, failed⟩ := mapM_eq_error_iff.mp stuck
      refine ⟨List.ne_nil_of_mem member, ?_⟩
      intro dated
      obtain ⟨outcomes, run⟩ := exists_outcomes dated context c
      rw [result?_eq run] at failed
      cases failed
    · rintro ⟨some, undated⟩
      obtain ⟨c, member⟩ := List.exists_mem_of_ne_nil contacts some
      obtain ⟨e, failed⟩ := outcomes_error undated context c
      have stuck : ∃ e, contacts.mapM (f.result? context now (f.activeCount context)) = .error e :=
        mapM_eq_error_iff.mpr ⟨c, member, e, by unfold result?; rw [failed]; rfl⟩
      obtain ⟨e, failed⟩ := stuck
      exact ⟨e, by rw [apply_of_active idle, failed]; rfl⟩

/-- The outcomes of the checks of a contact, none where the check of recency fails. -/
def checks (f : Filters) (context : FilterContext) (now : Timestamp) (c : Contact) : List Outcome :=
  (f.outcomes context now c).toOption.getD []

theorem outcomes_eq_checks {f : Filters} {now : Timestamp} (dated : f.HasStart now)
    (context : FilterContext) (c : Contact) :
    f.outcomes context now c = .ok (f.checks context now c) := by
  obtain ⟨outcomes, run⟩ := exists_outcomes dated context c
  simp [checks, run, Except.toOption]

section Kept

variable {f : Filters} {context : FilterContext} {now : Timestamp}

theorem checks_eq {c : Contact} {os : List Outcome} (run : f.outcomes context now c = .ok os) :
    f.checks context now c = os := by
  rw [checks, run]
  rfl

/-- Where no check fails, active filters list the contacts of which all active checks matched. -/
theorem apply_eq_ranked {contacts : List Contact} (checks : Contact → List Outcome)
    (active : f.activeCount context ≠ 0)
    (each : ∀ c ∈ contacts, f.outcomes context now c = .ok (checks c)) :
    f.apply context now contacts = .ok (SearchResult.ranked
      ((contacts.filter fun c => Outcome.allMatched (checks c)).map fun c =>
        SearchResult.ofMatches c.id ((checks c).filterMap Outcome.match?) context.intents)) := by
  rw [apply_of_active active, mapM_eq_map fun c member => result?_eq (each c member)]
  refine congrArg Except.ok (congrArg SearchResult.ranked ?_)
  rw [List.filterMap_map, Function.id_comp, filterMap_ite]

theorem apply_singleton {c : Contact} {os : List Outcome} (active : f.activeCount context ≠ 0)
    (run : f.outcomes context now c = .ok os) :
    f.apply context now [c] = .ok (if Outcome.allMatched os then
      [SearchResult.ofMatches c.id (os.filterMap Outcome.match?) context.intents] else []) := by
  rw [apply_eq_ranked (fun _ => os) active (by simpa using run)]
  by_cases satisfied : Outcome.allMatched os = true <;> simp [satisfied, SearchResult.ranked]

theorem apply_singleton_error {c : Contact} {e : RecencyError} (active : f.activeCount context ≠ 0)
    (failed : f.outcomes context now c = .error e) : f.apply context now [c] = .error e := by
  rw [apply_of_active active, List.mapM_cons, result?, failed]
  rfl

/-- Filters that list contacts check each of them without failing. -/
theorem outcomes_of_apply {contacts : List Contact} {results : List SearchResult}
    (run : f.apply context now contacts = .ok results) :
    ∀ c ∈ contacts, f.outcomes context now c = .ok (f.checks context now c) := by
  intro c member
  refine outcomes_eq_checks ?_ context c
  by_contra undated
  obtain ⟨e, failed⟩ := (apply_eq_error_iff f context now contacts).mpr
    ⟨List.ne_nil_of_mem member, undated⟩
  rw [run] at failed
  cases failed

/-- The contacts that active filters list are those of which all active checks matched. -/
theorem perm_apply {contacts : List Contact} {results : List SearchResult}
    (active : f.activeCount context ≠ 0) (run : f.apply context now contacts = .ok results) :
    (results.map SearchResult.contactId).Perm
      ((contacts.filter fun c => Outcome.allMatched (f.checks context now c)).map Contact.id) := by
  rw [apply_eq_ranked (f.checks context now) active (outcomes_of_apply run)] at run
  cases run
  refine ((SearchResult.perm_ranked _).map SearchResult.contactId).trans ?_
  rw [List.map_map]
  exact .refl _

end Kept

end Filters

end ContactSearch
