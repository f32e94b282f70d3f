import ContactSearch.Proofs.Query.Claims

/-!
# Longer lists of sources

The source step takes the first source of the list that the text names, and the steps before it do
not look at the list. So sources that are added at the end of the list are asked for only where the
others were not named: a query that names one of these reads as before.
-/

namespace ContactSearch

open Text

namespace Query

section Sources

variable (query : String) (orgs : List String) (known more : List Source)

/-- The text in which sources are looked for: what the steps for owners, time and warmth leave. -/
def textForSources : List Char :=
  (runSteps [extractOwner, extractTime (lower (trim query.toList)), extractWarmth]
    (trim query.toList)).2

theorem extractSource_append (text : List Char) : extractSource (known ++ more) text =
    (extractSource known text).or (extractSource more text) :=
  List.findSome?_append

/-- The steps for a query, with that for sources in their middle. -/
theorem steps_split (lowered : List Char) : steps lowered orgs known =
    [extractOwner, extractTime lowered, extractWarmth] ++
      extractSource known :: [extractCompany orgs, extractRole] := rfl

variable {query orgs known more}

/-- The list of sources matters to a query only through what the source step finds. -/
theorem parse_eq_of_extractSource {sources : List Source}
    (same : extractSource known (textForSources query) =
      extractSource sources (textForSources query)) :
    parse query orgs known = parse query orgs sources := by
  have alike : readSteps query orgs known = readSteps query orgs sources := by
    rw [readSteps, readSteps, steps_split, steps_split, runSteps_append, runSteps_append]
    rw [textForSources] at same
    rw [runSteps_congr same]
  have text : (parse query orgs known).freeText = (parse query orgs sources).freeText := by
    rw [freeText_parse, freeText_parse, alike]
  have intents : (parse query orgs known).intents = (parse query orgs sources).intents := by
    rw [intents_parse, intents_parse, alike, text]
  show ParsedQuery.mk query _ _ = ParsedQuery.mk query _ _
  exact congrArg₂ (ParsedQuery.mk query) text intents

/-- The intents on sources of a query are what the source step finds. -/
theorem mem_intents_source_iff {i : Intent} :
    i ∈ (parse query orgs known).intents ∧ i.kind = .source ↔
      ∃ found, extractSource known (textForSources query) = some found ∧ found.intent = i := by
  constructor
  · rintro ⟨member, kind⟩
    refine found_of_mem_parse (steps_split orgs known _) member ?_ ?_
    · rw [kind]
      decide
    · rw [kind, List.length_cons, List.length_cons, List.length_singleton]
      decide
  · rintro ⟨found, taken, rfl⟩
    refine ⟨?_, (yields_extractSource orgs known _ found taken).1⟩
    rw [intents_parse, readSteps, steps_split, runSteps_append]
    refine List.mem_append_left _ (List.mem_append_right _ ?_)
    rw [textForSources] at taken
    rw [runSteps, taken]
    exact List.mem_cons_self

/-- Sources at the end of the list leave a query as it is if it names one of the others. If it names
none of these, it reads differently exactly when it names one of those at the end. -/
theorem parse_append_sources (query : String) (orgs : List String) (known more : List Source) :
    ((∃ i ∈ (parse query orgs known).intents, i.kind = .source) →
      parse query orgs (known ++ more) = parse query orgs known) ∧
    ((∀ i ∈ (parse query orgs known).intents, i.kind ≠ .source) →
      (parse query orgs (known ++ more) ≠ parse query orgs known ↔
        ∃ s ∈ more, sourceIntent s.name ∈ (parse query orgs (known ++ more)).intents)) := by
  have both := extractSource_append known more (textForSources query)
  constructor
  · rintro ⟨i, member, kind⟩
    obtain ⟨found, taken, -⟩ := mem_intents_source_iff.mp ⟨member, kind⟩
    refine parse_eq_of_extractSource ?_
    rw [both, taken, Option.some_or]
  · intro none
    have missing : extractSource known (textForSources query) = .none := by
      cases taken : extractSource known (textForSources query) with
      | none => rfl
      | some found =>
        obtain ⟨member, kind⟩ := mem_intents_source_iff.mpr ⟨found, taken, rfl⟩
        exact absurd kind (none found.intent member)
    rw [missing, Option.none_or] at both
    constructor
    · intro differs
      cases taken : extractSource more (textForSources query) with
      | none =>
        refine absurd (parse_eq_of_extractSource ?_) differs
        rw [both, taken, missing]
      | some found =>
        obtain ⟨s, listed, same⟩ := intent_of_findSome? taken
        obtain ⟨member, -⟩ := mem_intents_source_iff.mpr ⟨found, both.trans taken, same⟩
        exact ⟨s, listed, member⟩
    · rintro ⟨s, -, member⟩ same
      rw [same] at member
      exact none _ member rfl

end Sources

end Query

end ContactSearch
