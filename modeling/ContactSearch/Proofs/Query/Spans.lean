import ContactSearch.Proofs.Query.Claims
import ContactSearch.Proofs.Query.Stripping
import ContactSearch.Proofs.Text.LowerCase

/-!
# The spans that the steps claim

A step leaves the text alone and reports nothing, or it reports one intent and takes one span out of
the text. The span is not empty, and it has in it what the intent is reported for, since every pattern
that is tried for an entry of a table has the text of the entry in it. The step for time looks into
the text in lower case, but no phrase of its table is in there without being in the text as well.
Whatever is left of a query is then some of its characters, in order.
-/

namespace ContactSearch.Query

open Text

section Patterns

/-- The ways to name an owner all have the name in them. -/
theorem forces_of_mem_ownerPatterns {name : String} {p : Pattern} (way : p ∈ ownerPatterns name) :
    p.Forces name.toList := by
  simp only [ownerPatterns, List.mem_cons, List.not_mem_nil, or_false] at way
  rcases way with rfl | rfl | rfl | rfl
  · exact Pattern.forces_phrase (by simp)
  · have whole : (Pattern.text (name ++ "'s")).Forces name.toList := by
      refine (Pattern.forces_text _).part ?_
      rw [String.toList_append]
      exact (List.prefix_append _ _).isInfix
    exact whole.spaced List.mem_cons_self
  · exact Pattern.forces_phrase (by simp)
  · exact Pattern.forces_phrase (by simp)

/-- The ways to name a source, the last of which is for long names only. -/
theorem mem_sourcePatterns {name : String} {p : Pattern} (way : p ∈ sourcePatterns name) :
    p = .seq beforeSource (.seq (.blanks 0) (.text name)) ∨
      p = .spaced [.text name, .anyOf [.text "contacts", .text "people", .text "source"]] ∨
      p = .word name ∧ 3 < name.length := by
  rcases List.mem_append.mp way with around | alone
  · rcases List.mem_cons.mp around with first | around
    · exact .inl first
    · exact .inr (.inl (List.mem_singleton.mp around))
  · split at alone
    · rename_i long
      exact .inr (.inr ⟨List.mem_singleton.mp alone, long⟩)
    · cases alone

theorem forces_of_mem_sourcePatterns {name : String} {p : Pattern} (way : p ∈ sourcePatterns name) :
    p.Forces name.toList := by
  rcases mem_sourcePatterns way with rfl | rfl | ⟨rfl, -⟩
  · exact (Pattern.forces_text name).seq_right.seq_right
  · exact (Pattern.forces_text name).spaced List.mem_cons_self
  · exact Pattern.forces_word name

/-- Even a source without a name takes a span that is not empty. -/
theorem isSolid_of_mem_sourcePatterns {name : String} {p : Pattern}
    (way : p ∈ sourcePatterns name) : p.isSolid = true := by
  rcases mem_sourcePatterns way with rfl | rfl | ⟨rfl, long⟩
  · have front : beforeSource.isSolid = true := by decide
    rw [Pattern.isSolid, front, Bool.true_or]
  · have behind : (Pattern.anyOf [.text "contacts", .text "people", .text "source"]).isSolid =
        true := by decide
    simp [Pattern.spaced, Pattern.isSolid, behind]
  · simp [Pattern.word, Pattern.isSolid, Pattern.text, toList_ne_nil long]

theorem forces_of_mem_companyPatterns {org : String} {p : Pattern} (way : p ∈ companyPatterns org) :
    p.Forces org.toList := by
  rcases mem_companyPatterns.mp way with rfl | rfl
  · exact (Pattern.forces_text org).spaced (by simp)
  · exact Pattern.forces_word org

end Patterns

section Claims

variable (orgs : List String) (sources : List Source)

/-- The intents that steps report, with what each is reported for: the name of an owner, a phrase, a
keyword, the name of a source or that of an organization. -/
inductive ReportedFor : Intent → String → Prop
  | owner {o : Owner} (listed : o ∈ owners) : ReportedFor (ownerIntent o) o.name
  | time {phrase : String} {days : Nat} (listed : (phrase, days) ∈ timePhrases) :
    ReportedFor (timeIntent phrase days) phrase
  | warmth {word : String} {levels : List Warmth} (listed : (word, levels) ∈ warmthWords) :
    ReportedFor (warmthIntent word levels) word
  | source {s : Source} (listed : s ∈ sources) : ReportedFor (sourceIntent s.name) s.name
  | company {org : String} (listed : org ∈ orgs) : ReportedFor (companyIntent org) org
  | role {role : String} (listed : role ∈ roles) : ReportedFor (roleIntent role) role

/-- The step reports the intent and takes the span out of the text, and the span has the name in it. -/
structure Step.Claims (step : Step) (text : List Char) (i : Intent) (name : String)
    (before span after : List Char) : Prop where
  report : runSteps [step] text = ([i], trim (before ++ after))
  entry : ReportedFor orgs sources i name
  whole : text = before ++ span ++ after
  some : span ≠ []
  named : HasText name.toList span

/-- The step leaves the text as it is, or claims one span of it for an intent of this kind. -/
def Step.ClaimsSpan (text : List Char) (step : Step) (kind : IntentKind) : Prop :=
  runSteps [step] text = ([], text) ∨ ∃ i name before span after, i.kind = kind ∧
    step.Claims orgs sources text i name before span after

variable {orgs sources}

theorem isPlain_timePhrases :
    ∀ entry ∈ timePhrases, entry.1.toList ≠ [] ∧ IsPlain entry.1.toList := by
  decide

theorem isNamed_tables : (∀ o ∈ owners, o.name.toList ≠ []) ∧
    (∀ entry ∈ warmthWords, entry.1.toList ≠ []) ∧ ∀ role ∈ roles, role.toList ≠ [] := by
  simp [owners, warmthWords, roles]

/-- A span that a pattern for an intent covers has in it what the intent is reported for. -/
theorem IsPatternFor.hasText {i : Intent} {p : Pattern} (tried : IsPatternFor orgs sources i p)
    {before span after : List Char} (covers : p.Covers before span after) :
    ∃ name, ReportedFor orgs sources i name ∧ span ≠ [] ∧ HasText name.toList span := by
  obtain ⟨owned, warm, playing⟩ := isNamed_tables
  cases tried with
  | @owner o _ listed way =>
    have named := forces_of_mem_ownerPatterns way _ _ _ covers
    exact ⟨o.name, .owner listed, named.ne_nil (owned o listed), named⟩
  | @time phrase days listed =>
    have named := Pattern.forces_text phrase _ _ _ covers
    exact ⟨phrase, .time listed, named.ne_nil (isPlain_timePhrases _ listed).1, named⟩
  | @warmth word levels listed =>
    have named := Pattern.forces_word word _ _ _ covers
    exact ⟨word, .warmth listed, named.ne_nil (warm _ listed), named⟩
  | @source s _ listed way =>
    have named := forces_of_mem_sourcePatterns way _ _ _ covers
    exact ⟨s.name, .source listed, covers.ne_nil (isSolid_of_mem_sourcePatterns way), named⟩
  | @company org _ listed way =>
    obtain ⟨known, long⟩ := (mem_companyOrder orgs).mp listed
    have named := forces_of_mem_companyPatterns way _ _ _ covers
    exact ⟨org, .company known, named.ne_nil (toList_ne_nil long), named⟩
  | @role role listed =>
    have named := Pattern.forces_word role _ _ _ covers
    exact ⟨role, .role listed, named.ne_nil (playing role listed), named⟩

/-- A step that takes out a span for whatever it finds claims that span. -/
theorem claimsSpan_of_takesOut {step : Step} {kind : IntentKind} {text : List Char}
    (yields : step.Yields fun i => i.kind = kind ∧ Reported orgs sources i)
    (out : ∀ found, step text = some found → ∃ cut, found.TakesOut orgs sources text cut) :
    step.ClaimsSpan orgs sources text kind := by
  cases taken : step text with
  | none => exact .inl (by simp [runSteps, taken])
  | some found =>
    obtain ⟨cut, ⟨p, tried, first⟩, rest⟩ := out found taken
    obtain ⟨whole, covers⟩ := Pattern.covers_of_find? first
    obtain ⟨name, entry, some, named⟩ := tried.hasText covers
    have report : runSteps [step] text = ([found.intent], trim (cut.before ++ cut.after)) := by
      simp [runSteps, taken, rest, Cut.rest]
    exact .inr ⟨found.intent, name, cut.before, cut.found, cut.after, (yields text found taken).1,
      report, entry, whole, some, named⟩

end Claims

/-! ## Time -/

section Time

variable {text : List Char}

/-- A phrase for time that is in the text in lower case is found in the text. -/
theorem exists_find?_of_contains_lower {entry : String × Nat} (listed : entry ∈ timePhrases)
    (occurs : contains entry.1.toList (lower text) = true) :
    ∃ cut, (Pattern.text entry.1).find? text = some cut := by
  obtain ⟨some, plain⟩ := isPlain_timePhrases entry listed
  exact Pattern.exists_find?_text_iff.mpr
    (hasText_of_infix_lower some plain (contains_iff.mp occurs))

/-- On the text in lower case, the step for time takes out what it reports. -/
theorem takesOut_extractTime {orgs : List String} {sources : List Source} {found : Finding}
    (taken : extractTime (lower text) text = some found) :
    ∃ cut, found.TakesOut orgs sources text cut := by
  obtain ⟨phrase, days, listed, occurs, there | ⟨missing, -⟩⟩ := extractTime_eq_some taken
  · exact takesOut_of_takeOut?_time listed there
  · obtain ⟨cut, first⟩ := exists_find?_of_contains_lower listed occurs
    rw [missing] at first
    cases first

/-- The first phrase that is in the text in lower case is reported and taken out. -/
theorem extractTime_of_first {phrase : String} {days : Nat}
    (first : timePhrases.find? (fun entry => contains entry.1.toList (lower text)) =
      some (phrase, days)) : ∃ cut, (Pattern.text phrase).find? text = some cut ∧
        extractTime (lower text) text = some ⟨timeIntent phrase days, cut.rest⟩ := by
  have occurs : contains phrase.toList (lower text) = true := by simpa using List.find?_some first
  obtain ⟨cut, there⟩ := exists_find?_of_contains_lower (List.mem_of_find?_eq_some first) occurs
  refine ⟨cut, there, ?_⟩
  rw [extractTime, first]
  simp [takeOut?, there]

-- the Kelvin sign is a k in lower case, and the search takes it for one
example : runSteps [extractTime (lower "Ann, past wee\u212A".toList)] "Ann, past wee\u212A".toList =
    ([timeIntent "past week" 7], "Ann,".toList) := by
  decide

end Time

/-! ## What is left -/

section Rest

variable {orgs : List String} {sources : List Source}

theorem Finding.TakesOut.sublist {found : Finding} {text : List Char} {cut : Cut}
    (out : found.TakesOut orgs sources text cut) : found.rest.Sublist text := by
  obtain ⟨p, -, first⟩ := out.span
  obtain ⟨whole, -⟩ := Pattern.covers_of_find? first
  rw [out.rest, Cut.rest, whole]
  have joined : (cut.before ++ cut.after).Sublist (cut.before ++ cut.found ++ cut.after) :=
    (List.sublist_append_left _ _).append_right _
  exact (infix_trimBy isBlank _).sublist.trans joined

/-- Each step of a run takes characters out, and adds none. -/
theorem sublist_runSteps {run : List Step} (each : ∀ step ∈ run, step.TakesSpans orgs sources)
    (text : List Char) : (runSteps run text).2.Sublist text := by
  induction run generalizing text with
  | nil => exact .refl _
  | cons step more ih =>
    obtain ⟨takes, others⟩ := List.forall_mem_cons.mp each
    cases taken : step text with
    | none =>
      rw [runSteps, taken]
      exact ih others text
    | some found =>
      have kept : found.rest.Sublist text := by
        rcases takes text found taken with same | ⟨cut, out⟩
        · rw [same]
        · exact out.sublist
      rw [runSteps, taken]
      exact (ih others found.rest).trans kept

/-- But for blanks, the free text is some of the query, in order. -/
theorem solids_freeText (query : String) (orgs : List String) (sources : List Source) :
    ((parse query orgs sources).freeText.toList.filter fun c => !isBlank c).Sublist
      (query.toList.filter fun c => !isBlank c) := by
  rw [freeText_parse, String.toList_ofList]
  have left : (readSteps query orgs sources).2.Sublist query.toList :=
    (sublist_runSteps (takesSpans_of_mem_steps _) _).trans (infix_trimBy isBlank _).sublist
  exact (solids_stripFillers _).trans (left.filter _)

end Rest

/-- How the steps deal with a text, that for time looking into the text in lower case. -/
structure IsClaimed (orgs : List String) (sources : List Source) (text : List Char) : Prop where
  /-- Each step, with the kind of intents it looks for, claims one span or none. -/
  spans : List.Forall₂ (Step.ClaimsSpan orgs sources text) (steps (lower text) orgs sources)
    [.owner, .time, .warmth, .source, .company, .role]
  /-- The search finds every phrase for time that is in the text in lower case. -/
  found : ∀ entry ∈ timePhrases, contains entry.1.toList (lower text) = true →
    ∃ cut, (Pattern.text entry.1).find? text = some cut
  /-- The first of them is taken out. -/
  removed : ∀ phrase days,
    timePhrases.find? (fun entry => contains entry.1.toList (lower text)) = some (phrase, days) →
      ∃ cut, (Pattern.text phrase).find? text = some cut ∧
        extractTime (lower text) text = some ⟨timeIntent phrase days, cut.rest⟩

/-- Each step claims one span of a text or none; what is left of a query, but for blanks, is some of
it, in order. -/
theorem steps_claim_spans (orgs : List String) (sources : List Source) :
    (∀ text, IsClaimed orgs sources text) ∧
      ∀ query : String, ((parse query orgs sources).freeText.toList.filter fun c =>
        !isBlank c).Sublist (query.toList.filter fun c => !isBlank c) := by
  refine ⟨fun text => ⟨?spans, ?found, ?removed⟩, fun query => solids_freeText query orgs sources⟩
  case spans =>
    refine .cons ?owner <| .cons ?time <| .cons ?warmth <| .cons ?source <| .cons ?company <|
      .cons ?role .nil
    case owner =>
      exact claimsSpan_of_takesOut (yields_extractOwner orgs sources) fun _ => takesOut_extractOwner
    case time =>
      exact claimsSpan_of_takesOut (yields_extractTime orgs sources _) fun _ => takesOut_extractTime
    case warmth =>
      exact claimsSpan_of_takesOut (yields_extractWarmth orgs sources) fun _ => takesOut_extractWarmth
    case source =>
      exact claimsSpan_of_takesOut (yields_extractSource orgs sources) fun _ => takesOut_extractSource
    case company =>
      exact claimsSpan_of_takesOut (yields_extractCompany orgs sources)
        fun _ => takesOut_extractCompany
    case role =>
      exact claimsSpan_of_takesOut (yields_extractRole orgs sources) fun _ => takesOut_extractRole
  case found =>
    intro entry listed occurs
    exact exists_find?_of_contains_lower listed occurs
  case removed =>
    intro phrase days first
    exact extractTime_of_first first

end ContactSearch.Query
