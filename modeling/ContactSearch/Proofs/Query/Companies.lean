import ContactSearch.Proofs.Query.Claims
import ContactSearch.Proofs.Sorting

/-!
# The organization that is reported

Of the organizations that a text names, the company step reports a longest one, and of several the
first in the list. So a longer list never loses a company, and what is reported depends neither on
repeated entries nor, where no two organizations are equally long, on the order of the list.
-/

namespace ContactSearch.Query

open Text

/-- A text names an organization after a preposition or as a word of its own. A single character
names nothing. -/
def Names (text : List Char) (org : String) : Prop :=
  2 ≤ org.length ∧ ∃ p ∈ companyPatterns org, p.Occurs text

/-- Of the organizations in a list that the text names, this is the first of the longest. -/
abbrev IsFirstLongest (orgs : List String) (text : List Char) (org : String) : Prop :=
  IsFirstGreatest String.length (Names text) orgs org

section Step

variable {orgs : List String} {text : List Char} {found : Finding}

/-- An organization that is tried is found in the texts that name it. -/
theorem exists_takeOut?_iff {org : String} (long : 2 ≤ org.length) :
    (∃ found, takeOut? (companyPatterns org) (companyIntent org) text = some found) ↔
      Names text org := by
  rw [← Option.ne_none_iff_exists', Ne, takeOut?_eq_none_iff, Names, and_iff_right long]
  simp only [not_forall, not_not, exists_prop]

/-- The step finds nothing exactly in the texts that name no organization of the list. -/
theorem extractCompany_eq_none_iff :
    extractCompany orgs text = none ↔ ∀ org ∈ orgs, ¬ Names text org := by
  rw [extractCompany, List.findSome?_eq_none_iff]
  constructor
  · rintro none org listed ⟨long, named⟩
    obtain ⟨found, taken⟩ := (exists_takeOut?_iff long).mpr ⟨long, named⟩
    rw [none org ((mem_companyOrder orgs).mpr ⟨listed, long⟩)] at taken
    cases taken
  · intro none org tried
    obtain ⟨listed, long⟩ := (mem_companyOrder orgs).mp tried
    by_contra some
    exact none org listed ((exists_takeOut?_iff long).mp (Option.ne_none_iff_exists'.mp some))

/-- Organizations are tried from the longest on, so the first that is found is the first of the
longest that the text names. -/
theorem isFirstLongest_of_extractCompany (taken : extractCompany orgs text = some found) :
    ∃ org, IsFirstLongest orgs text org ∧
      takeOut? (companyPatterns org) (companyIntent org) text = some found := by
  obtain ⟨tried, org, others, order, there, none⟩ := List.findSome?_eq_some_iff.mp taken
  have long : 2 ≤ org.length := by
    refine ((mem_companyOrder orgs).mp ?_).2
    rw [order]
    exact List.mem_append_right tried List.mem_cons_self
  obtain ⟨front, rest, sorted, kept, inRest⟩ := List.filter_eq_append_iff.mp order
  obtain ⟨short, back, rfl, drop, -, -⟩ := List.filter_eq_cons_iff.mp inRest
  rw [← List.append_assoc] at sorted
  refine ⟨org, .of_sorted sorted ?_ ?_, there⟩
  · exact (exists_takeOut?_iff long).mp ⟨found, there⟩
  · rintro x member ⟨long, named⟩
    -- Before the hit a long enough name was tried and not found, and names in between are too short.
    rcases List.mem_append.mp member with early | late
    · obtain ⟨other, hit⟩ := (exists_takeOut?_iff long).mpr ⟨long, named⟩
      have tried : x ∈ tried := by
        rw [← kept]
        exact List.mem_filter.mpr ⟨early, decide_eq_true long⟩
      rw [none x tried] at hit
      cases hit
    · exact drop x late (decide_eq_true long)

/-- The first of the longest is what the step takes out. -/
theorem extractCompany_of_isFirstLongest {org : String} (first : IsFirstLongest orgs text org) :
    extractCompany orgs text = takeOut? (companyPatterns org) (companyIntent org) text := by
  cases taken : extractCompany orgs text with
  | none => exact absurd first.holds (extractCompany_eq_none_iff.mp taken org first.mem)
  | some found =>
    obtain ⟨other, first', there⟩ := isFirstLongest_of_extractCompany taken
    rw [first.unique first', there]

/-- Two lists of the same organizations are alike to the step if the first of the longest in one is so
in the other. -/
theorem extractCompany_congr {others : List String} (same : ∀ org, org ∈ others ↔ org ∈ orgs)
    (first : ∀ org, IsFirstLongest others text org → IsFirstLongest orgs text org) :
    extractCompany others text = extractCompany orgs text := by
  cases taken : extractCompany others text with
  | none =>
    refine (extractCompany_eq_none_iff.mpr fun org listed => ?_).symm
    exact extractCompany_eq_none_iff.mp taken org ((same org).mpr listed)
  | some found =>
    obtain ⟨org, longest, there⟩ := isFirstLongest_of_extractCompany taken
    rw [extractCompany_of_isFirstLongest (first org longest), there]

end Step

theorem extractCompany_eraseDups (orgs : List String) (text : List Char) :
    extractCompany orgs.eraseDups text = extractCompany orgs text :=
  extractCompany_congr (fun _ => List.mem_eraseDups) fun _ first => first.of_eraseDups

/-! ## The step as a part of a run -/

section Run

variable {orgs : List String} {text : List Char} {org : String}

/-- Where a text names organizations of the list, the first of the longest is among them. -/
theorem exists_isFirstLongest (named : ∃ org ∈ orgs, Names text org) :
    ∃ org, IsFirstLongest orgs text org := by
  obtain ⟨org, listed, named⟩ := named
  cases taken : extractCompany orgs text with
  | none => exact absurd named (extractCompany_eq_none_iff.mp taken org listed)
  | some found =>
    obtain ⟨longest, first, -⟩ := isFirstLongest_of_extractCompany taken
    exact ⟨longest, first⟩

/-- What is reported is the first of the longest organizations that the text names. -/
theorem exists_runSteps_company_iff :
    (∃ rest, runSteps [extractCompany orgs] text = ([companyIntent org], rest)) ↔
      IsFirstLongest orgs text org := by
  constructor
  · rintro ⟨rest, report⟩
    cases taken : extractCompany orgs text with
    | none =>
      rw [runSteps_eq_self_iff.mpr taken] at report
      cases report
    | some found =>
      obtain ⟨longest, first, there⟩ := isFirstLongest_of_extractCompany taken
      rw [runSteps_of_some taken, intent_of_takeOut? there] at report
      obtain rfl : longest = org := congrArg Intent.value (List.cons.inj (Prod.mk.inj report).1).1
      exact first
  · intro first
    obtain ⟨found, there⟩ := (exists_takeOut?_iff first.holds.1).mpr first.holds
    have taken := (extractCompany_of_isFirstLongest first).trans there
    refine ⟨found.rest, ?_⟩
    rw [runSteps_of_some taken, intent_of_takeOut? there]

end Run

/-- How the company step deals with a text, for a list of organizations. -/
structure ReportsLongest (orgs : List String) (text : List Char) : Prop where
  /-- Nothing is reported and the text stays exactly where it names none of them. -/
  silent : runSteps [extractCompany orgs] text = ([], text) ↔ ∀ org ∈ orgs, ¬ Names text org
  /-- Else the first of the longest that it names is reported. -/
  longest : (∃ org ∈ orgs, Names text org) → ∃ org rest,
    runSteps [extractCompany orgs] text = ([companyIntent org], rest) ∧ IsFirstLongest orgs text org
  /-- With more organizations in the list, no shorter one is reported. -/
  grows : ∀ more org rest, orgs ⊆ more →
    runSteps [extractCompany orgs] text = ([companyIntent org], rest) → ∃ longer rest',
      runSteps [extractCompany more] text = ([companyIntent longer], rest') ∧
        org.length ≤ longer.length
  /-- An entry counts where it stands first, so repetitions behind it can be left out. -/
  repeats : ∀ fewer : List String, fewer.eraseDups = orgs.eraseDups →
    runSteps [extractCompany fewer] text = runSteps [extractCompany orgs] text
  /-- If no two of them are equally long, they can be listed in any order, and as often as may be. -/
  order : ∀ others : List String, (∀ org, org ∈ others ↔ org ∈ orgs) →
    (∀ a ∈ orgs, ∀ b ∈ orgs, a.length = b.length → a = b) →
      runSteps [extractCompany others] text = runSteps [extractCompany orgs] text

/-- The company step reports the first of the longest organizations that a text names. -/
theorem extractCompany_reportsLongest (orgs : List String) (text : List Char) :
    ReportsLongest orgs text where
  silent := runSteps_eq_self_iff.trans extractCompany_eq_none_iff
  longest := by
    intro named
    obtain ⟨org, first⟩ := exists_isFirstLongest named
    obtain ⟨rest, report⟩ := exists_runSteps_company_iff.mpr first
    exact ⟨org, rest, report, first⟩
  grows := by
    intro more org rest listed report
    have first := exists_runSteps_company_iff.mp ⟨rest, report⟩
    obtain ⟨longer, first'⟩ := exists_isFirstLongest ⟨org, listed first.mem, first.holds⟩
    obtain ⟨rest', report'⟩ := exists_runSteps_company_iff.mpr first'
    exact ⟨longer, rest', report', first'.key_le (listed first.mem) first.holds⟩
  repeats := by
    intro fewer same
    have alike : extractCompany fewer text = extractCompany orgs text := by
      rw [← extractCompany_eraseDups, same, extractCompany_eraseDups]
    exact runSteps_congr alike []
  order := by
    intro others same distinct
    have alike : extractCompany orgs text = extractCompany others text :=
      extractCompany_congr (fun org => (same org).symm) fun _ first =>
        first.of_mem_iff same distinct
    exact runSteps_congr alike.symm []

end ContactSearch.Query
