import ContactSearch.Proofs.Query.Claims
import ContactSearch.Proofs.Text.Keyword
import Mathlib.Data.List.Induction

/-!
# Keywords of a query

A keyword that a query is reported to have stands alone in the text that its step searched. That text
is the query less the spans that the steps before took out, so the keyword may be one that the query
does not have: then a removal put it together, or cut it loose from a longer word.
-/

namespace ContactSearch

open Text

namespace Query

section Run

variable (orgs : List String) (sources : List Source)

/-- A step of the run takes this cut out of the text that the steps before it left. -/
def RunTakes (run : List Step) (text : List Char) (cut : Cut) : Prop :=
  ∃ front step more found, run = front ++ step :: more ∧
    step (runSteps front text).2 = some found ∧
    found.TakesOut orgs sources (runSteps front text).2 cut

variable {orgs sources}

theorem RunTakes.concat {run : List Step} {text : List Char} {cut : Cut}
    (takes : RunTakes orgs sources run text cut) (step : Step) :
    RunTakes orgs sources (run ++ [step]) text cut := by
  obtain ⟨front, first, more, found, rfl, taken, out⟩ := takes
  exact ⟨front, first, more ++ [step], found, by simp, taken, out⟩

variable {keyword : List Char} (some : keyword ≠ [])
include some

/-- A keyword of what a finding leaves was in the text, or taking out the span made it. -/
theorem Finding.TakesOut.hasKeyword_or_forms {found : Finding} {text : List Char} {cut : Cut}
    (out : found.TakesOut orgs sources text cut) (has : HasKeyword keyword found.rest) :
    HasKeyword keyword text ∨ cut.Forms keyword := by
  obtain ⟨p, -, first⟩ := out.span
  obtain ⟨whole, -⟩ := Pattern.covers_of_find? first
  rw [out.rest] at has
  rw [whole]
  exact Text.hasKeyword_or_forms some (hasKeyword_of_trim has)

/-- A keyword of what a run leaves was in the text, or a step of the run made it. -/
theorem hasKeyword_or_forms_of_runSteps {run : List Step} {text : List Char}
    (each : ∀ step ∈ run, step.TakesSpans orgs sources)
    (has : HasKeyword keyword (runSteps run text).2) :
    HasKeyword keyword text ∨ ∃ cut, RunTakes orgs sources run text cut ∧ cut.Forms keyword := by
  induction run using List.reverseRecOn with
  | nil => exact .inl has
  | append_singleton run step ih =>
    have before : HasKeyword keyword (runSteps run text).2 → HasKeyword keyword text ∨
        ∃ cut, RunTakes orgs sources (run ++ [step]) text cut ∧ cut.Forms keyword := by
      intro has
      rcases ih (fun s member => each s (List.mem_append_left _ member)) has with
        there | ⟨cut, takes, forms⟩
      · exact .inl there
      · exact .inr ⟨cut, takes.concat step, forms⟩
    rw [text_runSteps_concat] at has
    cases taken : step (runSteps run text).2 with
    | none =>
      rw [taken] at has
      exact before has
    | some found =>
      rw [taken] at has
      rcases each step (by simp) _ found taken with same | ⟨cut, out⟩
      · refine before ?_
        rwa [← same]
      · rcases out.hasKeyword_or_forms some has with there | forms
        · exact before there
        · exact .inr ⟨cut, ⟨run, step, [], found, rfl, taken, out⟩, forms⟩

end Run

section Reading

variable (query : String) (orgs : List String) (sources : List Source)

/-- A keyword stands alone in the text that these steps leave of a query. It stands alone in the query
itself, unless one of them made it when it took out a span. -/
structure IsTraced (earlier : List Step) (keyword : String) : Prop where
  working : HasKeyword keyword.toList (runSteps earlier (trim query.toList)).2
  origin : HasKeyword keyword.toList query.toList ∨ ∃ cut,
    RunTakes orgs sources earlier (trim query.toList) cut ∧ cut.Forms keyword.toList

/-- The steps before that for warmth. -/
def beforeWarmth : List Step :=
  [extractOwner, extractTime (lower (trim query.toList))]

/-- The steps before that for roles. -/
def beforeRole : List Step :=
  beforeWarmth query ++ [extractWarmth, extractSource sources, extractCompany orgs]

/-- The steps for a query, with that for warmth in their middle, and with that for roles at the end. -/
theorem steps_split_warmth : steps (lower (trim query.toList)) orgs sources =
    beforeWarmth query ++ extractWarmth :: [extractSource sources, extractCompany orgs, extractRole] :=
  rfl

theorem steps_split_role : steps (lower (trim query.toList)) orgs sources =
    beforeRole query orgs sources ++ [extractRole] := rfl

variable {query orgs sources}

/-- A keyword for which a step finds its pattern is traced through the steps before. -/
theorem isTraced_of_find? {keyword : String} {earlier : List Step} {cut : Cut}
    (among : earlier ⊆ steps (lower (trim query.toList)) orgs sources)
    (lettered : isLettered keyword.toList = true)
    (found : (Pattern.word keyword).find? (runSteps earlier (trim query.toList)).2 = some cut) :
    IsTraced query orgs sources earlier keyword := by
  have some : keyword.toList ≠ [] := by
    intro none
    rw [none] at lettered
    cases lettered
  have working : HasKeyword keyword.toList (runSteps earlier (trim query.toList)).2 :=
    (occurs_word_iff lettered).mp (Pattern.occurs_of_find? found)
  refine ⟨working, ?_⟩
  rcases hasKeyword_or_forms_of_runSteps some
    (fun step member => takesSpans_of_mem_steps _ step (among member)) working with there | made
  · exact .inl (hasKeyword_of_trim there)
  · exact .inr made

/-- Every keyword of the tables starts and ends with a letter. -/
theorem isLettered_tables : (∀ p ∈ warmthWords, isLettered p.1.toList = true) ∧
    ∀ role ∈ roles, isLettered role.toList = true := by
  decide +kernel

theorem takeOut?_word {keyword : String} {i : Intent} {text : List Char} {found : Finding}
    (taken : takeOut? [.word keyword] i text = some found) :
    ∃ cut, (Pattern.word keyword).find? text = some cut := by
  obtain ⟨cut, first, -⟩ := Option.map_eq_some_iff.mp taken
  obtain ⟨p, listed, there⟩ := List.exists_of_findSome?_eq_some first
  rw [List.mem_singleton.mp listed] at there
  exact ⟨cut, there⟩

/-- The keyword of an intent on warmth or on a role is traced to the query. -/
theorem isTraced_of_parse (query : String) (orgs : List String) (sources : List Source) :
    (∀ i ∈ (parse query orgs sources).intents, i.kind = .warmth →
      ∃ word levels, (word, levels) ∈ warmthWords ∧ i = warmthIntent word levels ∧
        IsTraced query orgs sources (beforeWarmth query) word) ∧
    ∀ i ∈ (parse query orgs sources).intents, i.kind = .role →
      ∃ role ∈ roles, i = roleIntent role ∧
        IsTraced query orgs sources (beforeRole query orgs sources) role := by
  constructor
  · intro i member kind
    have found := found_of_mem_parse (steps_split_warmth query orgs sources) member
      (by simp [kind]) (by simp [kind, beforeWarmth])
    obtain ⟨found, taken, rfl⟩ := found
    obtain ⟨⟨word, levels⟩, listed, taken⟩ := List.exists_of_findSome?_eq_some taken
    obtain ⟨cut, there⟩ := takeOut?_word taken
    refine ⟨word, levels, listed, intent_of_takeOut? taken, isTraced_of_find? ?_ ?_ there⟩
    · rw [steps_split_warmth]
      exact List.subset_append_left _ _
    · exact isLettered_tables.1 (word, levels) listed
  · intro i member kind
    have found := found_of_mem_parse (steps_split_role query orgs sources) member
      (by simp [kind]) (by simp [kind, beforeRole, beforeWarmth])
    obtain ⟨found, taken, rfl⟩ := found
    obtain ⟨role, listed, taken⟩ := List.exists_of_findSome?_eq_some taken
    obtain ⟨cut, there⟩ := takeOut?_word taken
    refine ⟨role, listed, intent_of_takeOut? taken, isTraced_of_find? ?_ ?_ there⟩
    · rw [steps_split_role]
      exact List.subset_append_left _ _
    · exact isLettered_tables.2 role listed

/-- The step for time takes "new" out of these queries. So it makes a word of warmth of the first one,
and a role of the second, that the query does not have. -/
theorem keywords_of_removal :
    (warmthIntent "hot" [.hot] ∈ (parse "hnewot" [] []).intents ∧
      ¬ HasKeyword "hot".toList "hnewot".toList) ∧
    (roleIntent "cfo" ∈ (parse "cnewfo" [] []).intents ∧
      ¬ HasKeyword "cfo".toList "cnewfo".toList) := by
  refine ⟨⟨by decide +kernel, ?_⟩, by decide +kernel, ?_⟩
  all_goals
    intro has
    have inside := contains_of_hasKeyword has
    revert inside
    decide +kernel

end Reading

end Query

end ContactSearch
