import ContactSearch.Proofs.Query.Shape
import ContactSearch.Proofs.Recency
import ContactSearch.Proofs.Search.Additive

/-!
# Searches that cannot fail

A search fails only where a span of days before now has no start. The phrases for time reach back a
year at most, so after the first year of the calendar a search for a query that was read from text
always gives its results.
-/

namespace ContactSearch

open Calendar Query Text

variable {now : Timestamp}

theorem Match.added?_of_start {days start : Int} (found : Recency.cutoff now days = .ok start)
    (c : Contact) : ∃ m, Match.added? now days c = .ok m := by
  have within : Recency.within now days c.createdAt =
      .ok (decide (start ≤ c.createdAt.instant)) := by
    rw [Recency.within, found]
    rfl
  rw [Match.added?, within]
  cases decide (start ≤ c.createdAt.instant) with
  | true => exact ⟨_, rfl⟩
  | false => exact ⟨_, rfl⟩

namespace Search

theorem short_timePhrases : ∀ p ∈ timePhrases, p.2 ≤ 365 := by
  decide

variable {query : String} {orgs : List String} {sources : List Source} {i : Intent}

/-- Only an intent on time could fail, and those read from text reach back a year at most. -/
theorem intent?_of_mem_parse (late : 2 ≤ now.date.year)
    (member : i ∈ (parse query orgs sources).intents) (c : Contact) :
    ∃ m, Match.intent? now i c = .ok m := by
  by_cases time : i.kind = .time
  · cases reported_of_kind member time (by decide) with
    | time listed =>
      have readable := List.all_eq_true.mp readInt?_timePhrases _ listed
      obtain ⟨start, found⟩ := Recency.exists_cutoff_of_short late (short_timePhrases _ listed)
      simp only [beq_iff_eq] at readable
      simp only [Match.intent?, timeIntent, Match.time?, String.toList_ofList, readable]
      exact Match.added?_of_start found c
    | _ => cases time
  · unfold Match.intent?
    split <;> first | exact ⟨_, rfl⟩ | exact absurd ‹_› time

theorem run_parse_succeeds (late : 2 ≤ now.date.year) (query : String) (orgs : List String)
    (sources : List Source) (contacts : List Contact) :
    ∃ results, run now (parse query orgs sources) contacts = .ok results := by
  cases ran : run now (parse query orgs sources) contacts with
  | ok results => exact ⟨results, rfl⟩
  | error e =>
    obtain ⟨c, -, i, member, e', failed⟩ := (run_eq_error_iff _ _ _).mp ⟨e, ran⟩
    obtain ⟨m, succeeds⟩ := intent?_of_mem_parse late member c
    rw [succeeds] at failed
    cases failed

end Search

end ContactSearch
