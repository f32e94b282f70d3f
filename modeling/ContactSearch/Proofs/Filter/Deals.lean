import ContactSearch.Deal.Basic
import ContactSearch.Proofs.Deal.People
import ContactSearch.Proofs.Filter.Conjunction
import ContactSearch.Proofs.Match.Score
import Mathlib.Data.Set.List

/-!
# Deal filters from the listing to the results

The deal filters choose deals from the listing, the details of these name people, and the filters
keep contacts among these people only. Which filters are given is decided anew at each stage; as the
stages agree, every contact listed is named in the details of a deal that is looked for.
-/

namespace ContactSearch

open Calendar Text

namespace Filters

/-- A deal is one of those that the filters look for: its name and its sector contain the texts that
are given, and its status is one of those that are given, all ignoring case. -/
structure Wants (f : Filters) (d : Deal) : Prop where
  name : ∀ text, f.dealName = some text → text ≠ "" → text.lowered <:+: d.name.lowered
  sector : ∀ text, f.dealSector = some text → text ≠ "" →
    ∃ sector, d.sector = some sector ∧ text.lowered <:+: sector.lowered
  status : ∀ statuses, f.dealStatus = some statuses → ∃ s ∈ statuses, s.lowered = d.status.lowered

theorem nonEmpty?_some {text : String} (given : text ≠ "") : nonEmpty? (some text) = some text := by
  simp [nonEmpty?, Option.filter, given]

/-- The deals that are chosen are listed, and the filters look for them. -/
theorem wants_of_mem_toExpand {f : Filters} {limit : Int} {deals : List Deal} {d : Deal}
    (chosen : d ∈ Deal.toExpand limit f deals) : d ∈ deals ∧ f.Wants d := by
  obtain ⟨listed, satisfied⟩ := List.mem_filter.mp ((capped_sublist limit _).subset chosen)
  simp only [Deal.satisfies, Bool.and_eq_true] at satisfied
  obtain ⟨⟨name, sector⟩, status⟩ := satisfied
  refine ⟨listed, ?_, ?_, ?_⟩
  · intro text given some
    rw [Deal.hasName, given, nonEmpty?_some some] at name
    obtain ⟨_, same, inside⟩ := Match.exists_of_occursIn name
    cases same
    exact inside
  · intro text given some
    rw [Deal.hasSector, given, nonEmpty?_some some] at sector
    exact Match.exists_of_occursIn sector
  · intro statuses given
    rw [given] at status
    obtain ⟨-, among⟩ := Bool.and_eq_true_iff.mp status
    obtain ⟨s, member, same⟩ := List.any_eq_true.mp among
    exact ⟨s, member, eq_of_beq same⟩

/-- The people in the details of the deals that are chosen are collected, where the details can be
read and name people by integers. Each of them is named in the details of a deal that is looked for. -/
theorem exists_people {f : Filters} {deals : List Deal} {details : Deal → Json}
    (wellFormed : ∀ d ∈ deals, People.IsDetail (details d))
    (integers : ∀ d ∈ deals, People.HasIntegerIds (details d)) (limit : Int) :
    ∃ people : List Int,
      People.collect (.array ((Deal.toExpand limit f deals).map details)) =
        .ok (people.map Json.int) ∧
      ∀ n ∈ people, ∃ d ∈ deals, f.Wants d ∧ .int n ∈ People.personIds (details d) := by
  have chosen : ∀ d ∈ Deal.toExpand limit f deals, d ∈ deals ∧ f.Wants d :=
    fun d expanded => wants_of_mem_toExpand expanded
  generalize Deal.toExpand limit f deals = expanded at chosen
  have collected : People.collect (.array (expanded.map details)) =
      .ok (People.distinct ((expanded.map details).flatMap People.personIds)) := by
    refine People.collect_eq ?_ ?_
    · rw [List.forall_mem_map]
      exact fun d member => wellFormed d (chosen d member).1
    · rw [List.forall_mem_map]
      intro d member id named
      obtain ⟨n, rfl⟩ := integers d (chosen d member).1 id named
      rfl
  have named : ∀ id ∈ People.distinct ((expanded.map details).flatMap People.personIds),
      ∃ d ∈ deals, f.Wants d ∧ id ∈ People.personIds (details d) := by
    intro id member
    obtain ⟨detail, listed, inside⟩ := List.mem_flatMap.mp (People.mem_of_mem_distinct member)
    obtain ⟨d, among, rfl⟩ := List.mem_map.mp listed
    obtain ⟨known, wanted⟩ := chosen d among
    exact ⟨d, known, wanted, inside⟩
  obtain ⟨people, same⟩ : ∃ people : List Int, people.map Json.int =
      People.distinct ((expanded.map details).flatMap People.personIds) := by
    refine (Set.range_list_map Json.int).symm.subset ?_
    intro id member
    obtain ⟨d, known, -, inside⟩ := named id member
    obtain ⟨n, rfl⟩ := integers d known id inside
    exact ⟨n, rfl⟩
  refine ⟨people, by rw [collected, same], ?_⟩
  intro n member
  refine named (.int n) ?_
  rw [← same]
  exact List.mem_map_of_mem member

/-- Filters that name deals keep only contacts among the people that were looked up. -/
theorem mem_matchedIds_of_apply {f : Filters} {context : FilterContext} {now : Timestamp}
    {contacts : List Contact} {people : List Int} {results : List SearchResult}
    (deals : f.namesDeals = true) (lookedUp : context.matchedIds = some people)
    (run : f.apply context now contacts = .ok results) :
    ∀ r ∈ results, r.contactId ∈ people := by
  have active : f.activeCount context ≠ 0 := by
    intro idle
    have inactive := List.count_eq_zero.mp idle
    simp [deals, lookedUp] at inactive
  intro r listed
  have kept := (perm_apply active run).subset (List.mem_map_of_mem listed)
  obtain ⟨c, member, same⟩ := List.mem_map.mp kept
  obtain ⟨given, satisfied⟩ := List.mem_filter.mp member
  have checked := outcomes_of_apply run c given
  rw [outcomes_eq] at checked
  obtain ⟨recency, -, row⟩ := map_eq_ok.mp checked
  have last : f.checkDeals context c ∈ f.checks context now c := by
    rw [← row]
    simp [outcomesWith]
  have counts : (f.checkDeals context c).isActive = true := by
    rw [isActive_checkDeals, deals, lookedUp]
    rfl
  -- A check that takes part has matched at a contact that is kept.
  obtain ⟨m, found⟩ := Outcome.exists_match_of_allMatched satisfied last counts
  rw [checkDeals, lookedUp] at found
  by_cases among : c.id ∈ people
  · rwa [← same]
  · simp [deals, among] at found

/-- Filters that name deals, with people looked up in the details of the deals that the filters
choose. The look-up succeeds where the details can be read and name people by integers. The filters
then fail only for a start of recency beyond the calendar, and every contact they list is named in
the details of a listed deal that they look for. -/
theorem apply_sound_for_deals {f : Filters} {deals : List Deal} {details : Deal → Json}
    (given : f.namesDeals = true) (wellFormed : ∀ d ∈ deals, People.IsDetail (details d))
    (integers : ∀ d ∈ deals, People.HasIntegerIds (details d)) (limit : Int) :
    ∃ people : List Int,
      People.collect (.array ((Deal.toExpand limit f deals).map details)) =
        .ok (people.map Json.int) ∧
      ∀ (context : FilterContext) (now : Timestamp) (contacts : List Contact),
        ((∃ e, f.apply { context with matchedIds := some people } now contacts = .error e) ↔
          contacts ≠ [] ∧ ¬ f.HasStart now) ∧
        ∀ results, f.apply { context with matchedIds := some people } now contacts = .ok results →
          (∀ r ∈ results, ∃ d ∈ deals, f.Wants d ∧
            .int r.contactId ∈ People.personIds (details d)) ∧
          ((∀ d ∈ deals, ¬ f.Wants d) → results = []) := by
  obtain ⟨people, collected, named⟩ := exists_people wellFormed integers limit
  refine ⟨people, collected, ?_⟩
  intro context now contacts
  refine ⟨apply_eq_error_iff f _ now contacts, ?_⟩
  intro results run
  have sound : ∀ r ∈ results, ∃ d ∈ deals, f.Wants d ∧
      .int r.contactId ∈ People.personIds (details d) := by
    intro r listed
    exact named r.contactId (mem_matchedIds_of_apply given rfl run r listed)
  refine ⟨sound, ?_⟩
  intro unwanted
  refine List.eq_nil_iff_forall_not_mem.mpr ?_
  intro r listed
  obtain ⟨d, member, wanted, -⟩ := sound r listed
  exact unwanted d member wanted

/-- A detail that names one investor. -/
def oneInvestor : Json :=
  .object [("interests", .array [.object [("contact", .object [("id", .int 1)])]])]

/-- A deal, and filters that look for it. -/
def apollo : Deal :=
  ⟨5, "Apollo Fund", some "Energy", "Open", "fund"⟩

def onApollo : Filters :=
  { empty with dealName := some "apollo", dealStatus := some ["OPEN"] }

theorem onApollo_sound : onApollo.namesDeals = true ∧
    (∀ d ∈ [apollo], People.IsDetail oneInvestor) ∧
    (∀ d ∈ [apollo], People.HasIntegerIds oneInvestor) ∧
    ∃ (people : List Int) (results : List SearchResult),
      People.collect (.array ((Deal.toExpand 3 onApollo [apollo]).map fun _ => oneInvestor)) =
        .ok (people.map Json.int) ∧
      onApollo.apply { FilterContext.empty with matchedIds := some people } .juneMorning
        [.known "Ada" "Byron" .hot] = .ok results ∧
      ∀ r ∈ results, .int r.contactId ∈ People.personIds oneInvestor := by
  have given : onApollo.namesDeals = true := by decide
  have wellFormed : ∀ d ∈ [apollo], People.IsDetail oneInvestor := by
    intro d _
    refine .inr ⟨rfl, ?_⟩
    simp only [List.forall_mem_cons]
    refine ⟨?_, ?_, ?_, by simp⟩
    · rintro value ⟨⟩
      exact .inr ⟨_, rfl, by simp [People.isObject]⟩
    · rintro value ⟨⟩
    · rintro value ⟨⟩
  have integers : ∀ d ∈ [apollo], People.HasIntegerIds oneInvestor := by
    intro d _ id named
    have only : People.personIds oneInvestor = [.int 1] := rfl
    rw [only] at named
    exact ⟨1, List.mem_singleton.mp named⟩
  obtain ⟨people, collected, sound⟩ :=
    @apply_sound_for_deals onApollo [apollo] (fun _ => oneInvestor) given wellFormed integers 3
  obtain ⟨fails, sound⟩ := sound .empty .juneMorning [.known "Ada" "Byron" .hot]
  refine ⟨given, wellFormed, integers, people, ?_⟩
  cases run : onApollo.apply { FilterContext.empty with matchedIds := some people } .juneMorning
      [.known "Ada" "Byron" .hot] with
  | error e =>
    have dated : onApollo.HasStart .juneMorning := fun days span => nomatch span
    exact absurd dated (fails.mp ⟨e, run⟩).2
  | ok results =>
    refine ⟨results, collected, rfl, ?_⟩
    intro r listed
    obtain ⟨d, -, -, named⟩ := (sound results run).1 r listed
    exact named

end Filters

end ContactSearch
