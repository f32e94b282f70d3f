import ContactSearch.Proofs.Query.LastingWords

/-!
# What the steps take out

A step that reports an intent takes out of the text what a pattern for that intent finds there. Only
the step for time may leave the text as it is. Each kind of intent is looked for by one step, so an
intent of a query was found by that step, in what the steps before it left.
-/

namespace ContactSearch

open Text

namespace Query

theorem mem_companyPatterns {org : String} {p : Pattern} : p ∈ companyPatterns org ↔
    p = .spaced [beforeCompany, .text org] ∨ p = .word org := by
  simp [companyPatterns]

/-- Patterns take nothing out of the texts in which none of them occurs. -/
theorem takeOut?_eq_none_iff {ps : List Pattern} {i : Intent} {text : List Char} :
    takeOut? ps i text = none ↔ ∀ p ∈ ps, ¬ p.Occurs text := by
  rw [takeOut?, Option.map_eq_none_iff, List.findSome?_eq_none_iff]
  exact forall₂_congr fun p _ => Pattern.find?_eq_none_iff_not_occurs

section Spans

variable (orgs : List String) (sources : List Source)

/-- The patterns that are tried for an intent. -/
inductive IsPatternFor : Intent → Pattern → Prop
  | owner {o : Owner} {p : Pattern} (listed : o ∈ owners) (way : p ∈ ownerPatterns o.name) :
    IsPatternFor (ownerIntent o) p
  | time {phrase : String} {days : Nat} (listed : (phrase, days) ∈ timePhrases) :
    IsPatternFor (timeIntent phrase days) (.text phrase)
  | warmth {word : String} {levels : List Warmth} (listed : (word, levels) ∈ warmthWords) :
    IsPatternFor (warmthIntent word levels) (.word word)
  | source {s : Source} {p : Pattern} (listed : s ∈ sources) (way : p ∈ sourcePatterns s.name) :
    IsPatternFor (sourceIntent s.name) p
  | company {org : String} {p : Pattern} (listed : org ∈ companyOrder orgs)
    (way : p ∈ companyPatterns org) : IsPatternFor (companyIntent org) p
  | role {role : String} (listed : role ∈ roles) : IsPatternFor (roleIntent role) (.word role)

/-- A finding in a text takes out the span that a pattern for its intent finds first. -/
structure Finding.TakesOut (found : Finding) (text : List Char) (cut : Cut) : Prop where
  span : ∃ p, IsPatternFor orgs sources found.intent p ∧ p.find? text = some cut
  rest : found.rest = cut.rest

/-- Whatever the step finds, it takes out a span, or leaves the text as it is. -/
def Step.TakesSpans (step : Step) : Prop :=
  ∀ text found, step text = some found →
    found.rest = text ∨ ∃ cut, found.TakesOut orgs sources text cut

variable {orgs sources}

theorem takesOut_of_takeOut? {ps : List Pattern} {i : Intent} {text : List Char} {found : Finding}
    (ways : ∀ p ∈ ps, IsPatternFor orgs sources i p) (taken : takeOut? ps i text = some found) :
    ∃ cut, found.TakesOut orgs sources text cut := by
  obtain ⟨cut, first, rfl⟩ := Option.map_eq_some_iff.mp taken
  obtain ⟨p, listed, there⟩ := List.exists_of_findSome?_eq_some first
  exact ⟨cut, ⟨p, ways p listed, there⟩, rfl⟩

/-- A step that tries the entries of a table takes out a span for one of them. -/
theorem takesOut_of_findSome? {α : Type} {table : List α} {ps : α → List Pattern}
    {intent : α → Intent} {text : List Char} {found : Finding}
    (ways : ∀ a ∈ table, ∀ p ∈ ps a, IsPatternFor orgs sources (intent a) p)
    (taken : table.findSome? (fun a => takeOut? (ps a) (intent a) text) = some found) :
    ∃ cut, found.TakesOut orgs sources text cut := by
  obtain ⟨a, listed, taken⟩ := List.exists_of_findSome?_eq_some taken
  exact takesOut_of_takeOut? (ways a listed) taken

section Tables

variable {text : List Char} {found : Finding}

theorem takesOut_extractOwner (taken : extractOwner text = some found) :
    ∃ cut, found.TakesOut orgs sources text cut := by
  refine takesOut_of_findSome? ?_ taken
  intro o listed p way
  exact .owner listed way

theorem takesOut_extractWarmth (taken : extractWarmth text = some found) :
    ∃ cut, found.TakesOut orgs sources text cut := by
  refine takesOut_of_findSome? ?_ taken
  intro ⟨word, levels⟩ listed p way
  rw [List.mem_singleton.mp way]
  exact .warmth listed

theorem takesOut_extractSource (taken : extractSource sources text = some found) :
    ∃ cut, found.TakesOut orgs sources text cut := by
  refine takesOut_of_findSome? ?_ taken
  intro s listed p way
  exact .source listed way

theorem takesOut_extractCompany (taken : extractCompany orgs text = some found) :
    ∃ cut, found.TakesOut orgs sources text cut := by
  refine takesOut_of_findSome? ?_ taken
  intro org listed p way
  exact .company listed way

theorem takesOut_extractRole (taken : extractRole text = some found) :
    ∃ cut, found.TakesOut orgs sources text cut := by
  refine takesOut_of_findSome? ?_ taken
  intro role listed p way
  rw [List.mem_singleton.mp way]
  exact .role listed

/-- The step for time reports the first phrase of the query, whether or not the text still has it. -/
theorem extractTime_eq_some {lowered : List Char} (taken : extractTime lowered text = some found) :
    ∃ phrase days, (phrase, days) ∈ timePhrases ∧ contains phrase.toList lowered = true ∧
      (takeOut? [.text phrase] (timeIntent phrase days) text = some found ∨
        (Pattern.text phrase).find? text = none ∧ found = ⟨timeIntent phrase days, text⟩) := by
  obtain ⟨⟨phrase, days⟩, occurs, report⟩ := Option.map_eq_some_iff.mp taken
  have inside : contains phrase.toList lowered = true := by simpa using List.find?_some occurs
  refine ⟨phrase, days, List.mem_of_find?_eq_some occurs, inside, ?_⟩
  cases there : (Pattern.text phrase).find? text with
  | none =>
    have missing : takeOut? [.text phrase] (timeIntent phrase days) text = none := by
      simp [takeOut?, there]
    simpa [missing, eq_comm] using report
  | some cut =>
    have first : takeOut? [.text phrase] (timeIntent phrase days) text =
        some ⟨timeIntent phrase days, cut.rest⟩ := by
      simp [takeOut?, there]
    exact .inl (by simpa [first] using report)

/-- Where the text has the phrase for time, the step takes it out. -/
theorem takesOut_of_takeOut?_time {phrase : String} {days : Nat}
    (listed : (phrase, days) ∈ timePhrases)
    (taken : takeOut? [.text phrase] (timeIntent phrase days) text = some found) :
    ∃ cut, found.TakesOut orgs sources text cut := by
  refine takesOut_of_takeOut? ?_ taken
  intro p way
  rw [List.mem_singleton.mp way]
  exact .time listed

end Tables

theorem takesSpans_extractTime (lowered : List Char) :
    Step.TakesSpans orgs sources (extractTime lowered) := by
  intro text found taken
  obtain ⟨phrase, days, listed, -, there | ⟨-, rfl⟩⟩ := extractTime_eq_some taken
  · exact .inr (takesOut_of_takeOut?_time listed there)
  · exact .inl rfl

/-- Each step takes out spans for the intents that it reports. -/
theorem takesSpans_of_mem_steps (lowered : List Char) :
    ∀ step ∈ steps lowered orgs sources, step.TakesSpans orgs sources := by
  simp only [steps, List.forall_mem_cons]
  refine ⟨?owner, takesSpans_extractTime lowered, ?warmth, ?source, ?company, ?role, by simp⟩
  all_goals intro text found taken
  case owner => exact .inr (takesOut_extractOwner taken)
  case warmth => exact .inr (takesOut_extractWarmth taken)
  case source => exact .inr (takesOut_extractSource taken)
  case company => exact .inr (takesOut_extractCompany taken)
  case role => exact .inr (takesOut_extractRole taken)

end Spans

/-! ## The step that found an intent -/

/-- The text that is left when the steps of a run have been taken. -/
theorem text_runSteps_concat (run : List Step) (step : Step) (text : List Char) :
    (runSteps (run ++ [step]) text).2 =
      ((step (runSteps run text).2).map Finding.rest).getD (runSteps run text).2 := by
  rw [runSteps_append]
  cases taken : step (runSteps run text).2 with
  | none => simp [runSteps, taken]
  | some found => simp [runSteps, taken]

/-- An intent of a kind that no other step looks for was found by the step for that kind, in the
text that the steps before it left. -/
theorem found_of_mem_runSteps {sort : Intent → Prop} {front more : List Step} {step : Step}
    {before behind : List IntentKind}
    (first : List.Forall₂ (fun step k => Step.Yields step fun i => i.kind = k ∧ sort i) front before)
    (last : List.Forall₂ (fun step k => Step.Yields step fun i => i.kind = k ∧ sort i) more behind)
    {text : List Char} {i : Intent} (member : i ∈ (runSteps (front ++ step :: more) text).1)
    (other : i.kind ∉ before ++ behind) :
    ∃ found, step (runSteps front text).2 = some found ∧ found.intent = i := by
  rw [List.mem_append, not_or] at other
  have later : ∀ rest, i ∉ (runSteps more rest).1 := by
    intro rest inMore
    exact other.2 ((kinds_runSteps last rest).subset (List.mem_map_of_mem inMore))
  rw [runSteps_append, List.mem_append] at member
  rcases member with inFront | member
  · exact absurd ((kinds_runSteps first text).subset (List.mem_map_of_mem inFront)) other.1
  · rcases runSteps_cons step more (runSteps front text).2 with ⟨found, taken, report⟩ | ⟨-, same⟩
    · rw [report] at member
      rcases List.mem_cons.mp member with rfl | inMore
      · exact ⟨found, taken, rfl⟩
      · exact absurd inMore (later found.rest)
    · rw [same] at member
      exact absurd member (later _)

/-- An intent of a query on anything but names is one that the steps report. -/
theorem mem_readSteps_of_kind {query : String} {orgs : List String} {sources : List Source}
    {i : Intent} (member : i ∈ (parse query orgs sources).intents) (other : i.kind ≠ .name) :
    i ∈ (readSteps query orgs sources).1 := by
  rw [intents_parse, List.mem_append] at member
  rcases member with found | left
  · exact found
  · split at left
    · cases left
    · exact absurd (congrArg Intent.kind (List.mem_singleton.mp left)) other

/-- An intent of a query, on anything but names, was found by the step for its kind in the text that
the steps before that one left. -/
theorem found_of_mem_parse {query : String} {orgs : List String} {sources : List Source}
    {front more : List Step} {step : Step} {i : Intent}
    (split : steps (lower (trim query.toList)) orgs sources = front ++ step :: more)
    (member : i ∈ (parse query orgs sources).intents) (named : i.kind ≠ .name)
    (other : i.kind ∉ [.owner, .time, .warmth, .source, .company, .role].take front.length ++
      [IntentKind.owner, .time, .warmth, .source, .company, .role].drop (front.length + 1)) :
    ∃ found, step (runSteps front (trim query.toList)).2 = some found ∧ found.intent = i := by
  have reported := mem_readSteps_of_kind member named
  have each := forall₂_steps orgs sources (lower (trim query.toList))
  rw [readSteps, split] at reported
  rw [split] at each
  have first := List.forall₂_take front.length each
  have last := List.forall₂_drop (front.length + 1) each
  rw [List.take_left] at first
  rw [List.drop_append, List.drop_of_length_le (Nat.le_succ _), List.nil_append,
    Nat.add_sub_cancel_left, List.drop_one, List.tail_cons] at last
  exact found_of_mem_runSteps first last reported other

end Query

end ContactSearch
