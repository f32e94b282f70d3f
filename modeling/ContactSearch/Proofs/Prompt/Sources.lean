import ContactSearch.Prompt.Basic
import ContactSearch.Proofs.Filter.SharedScores
import ContactSearch.Proofs.Match.SourceNames
import ContactSearch.Text.Split

/-!
# Sources that the classifier is told

An account that knows no sources of its own tells the classifier the usual ones, so that it answers
in names that the filter on sources can match. A name finds exactly the contacts whose source is the
entry of that name. The usual names are those of the catalog, with one that is spelled otherwise: no
name that is told finds a contact from a dinner exactly.
-/

namespace ContactSearch

open Calendar Source

/-- The score that the filter on sources, set to this name alone, gives a contact with this source. -/
theorem Filters.scores_apply_source {name text : String} (given : name ≠ "") (now : Timestamp)
    {c : Contact} (source : c.source = some text) :
    (({ empty with source := some name } : Filters).apply .empty now [c]).map
        (List.map fun r => (r.contactId, r.score)) =
      .ok (((Match.source? (some text) name).map Match.score).map fun s => (c.id, s)).toList := by
  rw [scores_apply_of_asksAs (@AsksAs.source name "" given) now c, ← source]
  rfl

namespace Prompt

/-- The names in a listing, which stand between its commas. -/
def namesIn (listing : String) : List String :=
  (Text.split ',' listing.toList).map fun part => String.ofList (Text.trim part)

/-- The names of sources that the prompt tells. -/
def toldSources (known : Known) : List String :=
  namesIn (listing known.sources usualSources 0)

/-- The filter on sources, set to a name alone, lists a contact with the score of the same source. -/
def FindsExactly (name : String) (now : Timestamp) (c : Contact) : Prop :=
  (({ Filters.empty with source := some name } : Filters).apply .empty now [c]).map
    (List.map fun r => (r.contactId, r.score)) = .ok [(c.id, 50)]

/-! ## What is told -/

theorem exists_intercalate_eq {part : String} (between : String) {parts : List String}
    (member : part ∈ parts) : ∃ front back, between.intercalate parts = front ++ part ++ back := by
  induction parts with
  | nil => cases member
  | cons first rest ih =>
    cases rest with
    | nil =>
      rw [List.mem_singleton.mp member]
      exact ⟨"", "", by simp⟩
    | cons second rest =>
      rw [String.intercalate_cons_cons]
      rcases List.mem_cons.mp member with rfl | later
      · exact ⟨"", between ++ between.intercalate (second :: rest), by simp [String.append_assoc]⟩
      · obtain ⟨front, back, whole⟩ := ih later
        exact ⟨first ++ between ++ front, back, by rw [whole]; simp [String.append_assoc]⟩

theorem toldSources_of_none {known : Known} (none : known.sources = []) :
    toldSources known = namesIn usualSources := by
  rw [toldSources, listing, none, List.isEmpty_nil, if_pos rfl]

theorem namesIn_usualSources : namesIn usualSources =
    ["LinkedIn", "Conference", "Referral", "Cold Outreach", "Email Campaign", "Website",
      "Warm Intro", "Dinner/Event", "Roadshow", "Inbound", "RFP", "Co-Investor", "Cold Call",
      "Research", "Existing Relationship"] := by
  decide +kernel

/-- The names are told, and nothing else under their heading. -/
theorem exists_render_eq {known : Known} (none : known.sources = []) (maxOrgs : Int) :
    ∃ front back, render known maxOrgs =
      front ++ headed "Known Sources" (", ".intercalate (toldSources known)) ++ back := by
  have listed : ", ".intercalate (toldSources known) = listing known.sources usualSources 0 := by
    rw [toldSources_of_none none, namesIn_usualSources, listing, none, List.isEmpty_nil, if_pos rfl]
    decide +kernel
  rw [listed]
  exact exists_intercalate_eq "\n\n" (by simp [sections])

theorem ne_empty_of_mem_usual : ∀ name ∈ namesIn usualSources, name ≠ "" := by
  rw [namesIn_usualSources]
  decide

/-- Of the entries outside the category for anything else one is not told by its name. -/
theorem exists_usual_iff : ∀ entry ∈ catalog, entry.category ≠ .other →
    ((∃ name ∈ namesIn usualSources, name.lowered = entry.name.lowered) ↔
      entry.name ≠ "Dinner / Event") := by
  rw [namesIn_usualSources]
  decide

theorem dinner_mem_usual : "Dinner/Event" ∈ namesIn usualSources := by
  rw [namesIn_usualSources]
  decide

/-- The name that is told instead spells no entry. -/
theorem filedUnder_dinner : filedUnder "Dinner/Event" = .other := by
  decide

/-! ## What the names find -/

section Found

variable {text : String} {entry : Source} {c : Contact} {now : Timestamp}

/-- A text that names a source outside the category for anything else spells an entry. -/
theorem spelled_of_resolve? (resolved : resolve? text = some entry)
    (filed : entry.category ≠ .other) : text ≠ "" ∧ named text = entry ∧ entry ∈ catalog := by
  have given : text ≠ "" := by
    rintro rfl
    cases resolved
  rw [resolve?_eq_named given] at resolved
  cases resolved
  refine ⟨given, rfl, ?_⟩
  rcases named_cases text with ⟨-, listed⟩ | ⟨none, -⟩
  · exact listed
  · rw [named, none, Option.getD_none] at filed
    exact absurd rfl filed

/-- A name finds a contact exactly where it is the name of the source of the contact. -/
theorem findsExactly_iff {name : String} (wanted : name ≠ "") (source : c.source = some text)
    (given : text ≠ "") :
    FindsExactly name now c ↔ name.lowered = (named text).name.lowered := by
  rw [FindsExactly, Filters.scores_apply_source wanted now source]
  rcases Match.source?_cases given wanted with ⟨same, scored⟩ | ⟨apart, -, scored⟩ |
    ⟨apart, -, scored⟩
  · simp [scored, same]
  · simp [scored, Ne.symm apart]
  · simp [scored, Ne.symm apart]

theorem exists_findsExactly_iff (source : c.source = some text)
    (resolved : resolve? text = some entry) (filed : entry.category ≠ .other) :
    (∃ name ∈ namesIn usualSources, FindsExactly name now c) ↔ entry.name ≠ "Dinner / Event" := by
  obtain ⟨given, rfl, listed⟩ := spelled_of_resolve? resolved filed
  rw [← exists_usual_iff _ listed filed]
  refine exists_congr fun name => and_congr_right fun told => ?_
  exact findsExactly_iff (ne_empty_of_mem_usual name told) source given

/-- The name that is told for dinners and events finds no contact whose source is an entry. -/
theorem scores_dinner (source : c.source = some text) (resolved : resolve? text = some entry)
    (filed : entry.category ≠ .other) :
    (({ Filters.empty with source := some "Dinner/Event" } : Filters).apply .empty now [c]).map
      (List.map fun r => (r.contactId, r.score)) = .ok [] := by
  obtain ⟨given, rfl, listed⟩ := spelled_of_resolve? resolved filed
  have wanted : "Dinner/Event" ≠ "" := by decide
  rw [Filters.scores_apply_source wanted now source]
  rw [category_named] at filed
  rcases Match.source?_cases given wanted with ⟨same, -⟩ | ⟨-, alike, -⟩ | ⟨-, -, scored⟩
  · have one := category_eq_of_sameName (lowered_name_eq_iff.mp same).1
    rw [category_named, category_named, filedUnder_dinner] at one
    exact absurd one filed
  · rw [category_named, category_named, filedUnder_dinner] at alike
    exact absurd alike filed
  · rw [scored]
    rfl

end Found

/-- An account without sources of its own tells the classifier the usual names. One that is told finds
a contact exactly where it is, but for case, the name of the entry that the source of the contact
spells. For every entry outside the category for anything else such a name is told, with the one
exception of the entry for dinners and events: the name that is told for it finds none of these
contacts at all. -/
theorem toldSources_findExactly {known : Known} (none : known.sources = []) (maxOrgs : Int) :
    (∃ front back, render known maxOrgs =
      front ++ headed "Known Sources" (", ".intercalate (toldSources known)) ++ back) ∧
    ∀ (c : Contact) (text : String) (entry : Source) (now : Timestamp), c.source = some text →
      resolve? text = some entry → entry.category ≠ .other →
        (∀ name ∈ toldSources known,
          FindsExactly name now c ↔ name.lowered = entry.name.lowered) ∧
        ((∃ name ∈ toldSources known, FindsExactly name now c) ↔ entry.name ≠ "Dinner / Event") ∧
        "Dinner/Event" ∈ toldSources known ∧
        (({ Filters.empty with source := some "Dinner/Event" } : Filters).apply .empty now [c]).map
          (List.map fun r => (r.contactId, r.score)) = .ok [] := by
  refine ⟨exists_render_eq none maxOrgs, ?_⟩
  intro c text entry now source resolved filed
  rw [toldSources_of_none none]
  refine ⟨?_, exists_findsExactly_iff source resolved filed, dinner_mem_usual,
    scores_dinner source resolved filed⟩
  obtain ⟨given, rfl, -⟩ := spelled_of_resolve? resolved filed
  intro name told
  exact findsExactly_iff (ne_empty_of_mem_usual name told) source given

/-- An account that knows nothing. -/
def knowsNothing : Known :=
  ⟨[], [], [], [], [], [], []⟩

/-- A contact that came in through this source. -/
def contactFrom (source : String) : Contact :=
  { Contact.known "Ada" "Byron" .hot with source := some source }

theorem coldOutreach_isFound : knowsNothing.sources = [] ∧
    resolve? " COLD_outreach" = some ⟨"Cold Outreach", .outbound, some "Proactive cold outreach"⟩ ∧
    ∃ name ∈ toldSources knowsNothing,
      FindsExactly name .juneMorning (contactFrom " COLD_outreach") := by
  have resolved : resolve? " COLD_outreach" =
      some ⟨"Cold Outreach", .outbound, some "Proactive cold outreach"⟩ := by decide
  refine ⟨rfl, resolved, ?_⟩
  obtain ⟨-, found⟩ := @toldSources_findExactly knowsNothing rfl 100
  exact (found (contactFrom " COLD_outreach") _ _ .juneMorning rfl resolved (by decide)).2.1.mpr
    (by decide)

/-- A contact that was met at a dinner is found exactly under none of the names. -/
theorem dinner_isMissed :
    resolve? "Dinner / Event" =
      some ⟨"Dinner / Event", .event, some "Met at a dinner or private event"⟩ ∧
    ∀ name ∈ toldSources knowsNothing,
      ¬ FindsExactly name .juneMorning (contactFrom "Dinner / Event") := by
  have resolved : resolve? "Dinner / Event" =
      some ⟨"Dinner / Event", .event, some "Met at a dinner or private event"⟩ := by decide
  refine ⟨resolved, ?_⟩
  intro name told found
  rw [toldSources_of_none rfl] at told
  have source : (contactFrom "Dinner / Event").source = some "Dinner / Event" := rfl
  exact (exists_findsExactly_iff source resolved (by decide)).mp ⟨name, told, found⟩ rfl

end Prompt

end ContactSearch
