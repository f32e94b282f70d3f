import ContactSearch.Match.Intent
import ContactSearch.Proofs.Query.Fillers
import ContactSearch.Query.Parsed
import Mathlib.Data.List.Nodup

/-!
# The shape of a parsed query

What can be relied on when a query has been read, whatever the query, the organizations and the
sources are: the kinds of its intents and their order, the form of their values, and the form of
the free text, which is mirrored by an intent on names.
-/

namespace ContactSearch

open Text Query

/-- The kinds of intents that a query can yield, in the order in which they are looked for. -/
def IntentKind.readingOrder : List IntentKind :=
  [.owner, .time, .warmth, .source, .company, .role, .name]

/-- A reading of a query that a search can rely on. -/
structure ParsedQuery.IsReading (query : String) (orgs : List String) (sources : List Source)
    (p : ParsedQuery) : Prop where
  raw : p.raw = query
  /-- Each kind at most once, and all in order. -/
  order : (p.intents.map Intent.kind).Sublist IntentKind.readingOrder
  time : ∀ i ∈ p.intents, i.kind = .time → ∃ days : Nat,
    i.value = String.ofList (natText days) ∧ readInt? i.value.toList = some (days : Int)
  warmth : ∀ i ∈ p.intents, i.kind = .warmth → ∃ levels : List Warmth, levels ≠ [] ∧
    i.value = ",".intercalate (levels.map fun w => String.ofList (natText w.level)) ∧
    Match.levels? i.value = some (levels.map fun w => (w.level : Int))
  source : ∀ i ∈ p.intents, i.kind = .source → ∃ s ∈ sources, i.value = s.name
  company : ∀ i ∈ p.intents, i.kind = .company → i.value ∈ orgs ∧ 2 ≤ i.value.length
  role : ∀ i ∈ p.intents, i.kind = .role → i.value ∈ roles
  named : (∃ i ∈ p.intents, i.kind = .name) ↔ p.freeText ≠ ""
  name : ∀ i ∈ p.intents, i.kind = .name → i.value = p.freeText
  freeText : p.freeText = "" ∨ IsFreeText p.freeText.toList

namespace Query

/-- The intents that the steps can report, each from an entry of its table. -/
inductive Reported (orgs : List String) (sources : List Source) : Intent → Prop
  | owner {o : Owner} (listed : o ∈ owners) : Reported orgs sources (ownerIntent o)
  | time {phrase : String} {days : Nat} (listed : (phrase, days) ∈ timePhrases) :
    Reported orgs sources (timeIntent phrase days)
  | warmth {word : String} {levels : List Warmth} (listed : (word, levels) ∈ warmthWords) :
    Reported orgs sources (warmthIntent word levels)
  | source {s : Source} (listed : s ∈ sources) : Reported orgs sources (sourceIntent s.name)
  | company {org : String} (listed : org ∈ orgs) (long : 2 ≤ org.length) :
    Reported orgs sources (companyIntent org)
  | role {role : String} (listed : role ∈ roles) : Reported orgs sources (roleIntent role)

/-- Whatever a step finds, its intent is of this sort. -/
def Step.Yields (step : Step) (sort : Intent → Prop) : Prop :=
  ∀ text found, step text = some found → sort found.intent

theorem intent_of_takeOut? {ps : List Pattern} {i : Intent} {text : List Char} {found : Finding}
    (taken : takeOut? ps i text = some found) : found.intent = i := by
  obtain ⟨cut, -, rfl⟩ := Option.map_eq_some_iff.mp taken
  rfl

/-- A step that tries the entries of a table reports the intent of one of them. -/
theorem intent_of_findSome? {α : Type} {table : List α} {ps : α → List Pattern}
    {intent : α → Intent} {text : List Char} {found : Finding}
    (taken : table.findSome? (fun a => takeOut? (ps a) (intent a) text) = some found) :
    ∃ a ∈ table, found.intent = intent a := by
  obtain ⟨a, listed, taken⟩ := List.exists_of_findSome?_eq_some taken
  exact ⟨a, listed, intent_of_takeOut? taken⟩

section Steps

variable (orgs : List String) (sources : List Source)

theorem yields_extractOwner :
    Step.Yields extractOwner fun i => i.kind = .owner ∧ Reported orgs sources i := by
  intro text found taken
  obtain ⟨o, listed, same⟩ := intent_of_findSome? taken
  exact ⟨by rw [same]; rfl, same ▸ .owner listed⟩

theorem yields_extractTime (lowered : List Char) :
    Step.Yields (extractTime lowered) fun i => i.kind = .time ∧ Reported orgs sources i := by
  intro text found taken
  obtain ⟨⟨phrase, days⟩, occurs, rfl⟩ := Option.map_eq_some_iff.mp taken
  have listed := List.mem_of_find?_eq_some occurs
  have same : ((takeOut? [.text phrase] (timeIntent phrase days) text).getD
      ⟨timeIntent phrase days, text⟩).intent = timeIntent phrase days := by
    cases there : takeOut? [.text phrase] (timeIntent phrase days) text with
    | none => rfl
    | some f => exact intent_of_takeOut? there
  exact ⟨by rw [same]; rfl, same ▸ .time listed⟩

theorem yields_extractWarmth :
    Step.Yields extractWarmth fun i => i.kind = .warmth ∧ Reported orgs sources i := by
  intro text found taken
  obtain ⟨⟨word, levels⟩, listed, same⟩ := intent_of_findSome? taken
  exact ⟨by rw [same]; rfl, same ▸ .warmth listed⟩

theorem yields_extractSource :
    Step.Yields (extractSource sources) fun i => i.kind = .source ∧ Reported orgs sources i := by
  intro text found taken
  obtain ⟨s, listed, same⟩ := intent_of_findSome? taken
  exact ⟨by rw [same]; rfl, same ▸ .source listed⟩

theorem mem_companyOrder {org : String} :
    org ∈ companyOrder orgs ↔ org ∈ orgs ∧ 2 ≤ org.length := by
  simp [companyOrder]

theorem yields_extractCompany :
    Step.Yields (extractCompany orgs) fun i => i.kind = .company ∧ Reported orgs sources i := by
  intro text found taken
  obtain ⟨org, listed, same⟩ := intent_of_findSome? taken
  obtain ⟨known, long⟩ := (mem_companyOrder orgs).mp listed
  exact ⟨by rw [same]; rfl, same ▸ .company known long⟩

theorem yields_extractRole :
    Step.Yields extractRole fun i => i.kind = .role ∧ Reported orgs sources i := by
  intro text found taken
  obtain ⟨role, listed, same⟩ := intent_of_findSome? taken
  exact ⟨by rw [same]; rfl, same ▸ .role listed⟩

/-- The steps in order, each with the kind of the intents it looks for. -/
theorem forall₂_steps (lowered : List Char) :
    List.Forall₂ (fun step k => Step.Yields step fun i => i.kind = k ∧ Reported orgs sources i)
      (steps lowered orgs sources) [.owner, .time, .warmth, .source, .company, .role] :=
  .cons (yields_extractOwner orgs sources) <| .cons (yields_extractTime orgs sources lowered) <|
    .cons (yields_extractWarmth orgs sources) <| .cons (yields_extractSource orgs sources) <|
    .cons (yields_extractCompany orgs sources) <| .cons (yields_extractRole orgs sources) .nil

end Steps

theorem runSteps_cons (step : Step) (more : List Step) (text : List Char) :
    (∃ found, step text = some found ∧
      (runSteps (step :: more) text).1 = found.intent :: (runSteps more found.rest).1) ∨
    (step text = none ∧ runSteps (step :: more) text = runSteps more text) := by
  cases taken : step text with
  | none => exact .inr ⟨rfl, by rw [runSteps, taken]⟩
  | some found => exact .inl ⟨found, rfl, by rw [runSteps, taken]⟩

/-- Steps that find the same in a text go on alike from it. -/
theorem runSteps_congr {step step' : Step} {text : List Char} (same : step text = step' text)
    (more : List Step) : runSteps (step :: more) text = runSteps (step' :: more) text := by
  rw [runSteps, runSteps, same]

theorem runSteps_of_some {step : Step} {found : Finding} (taken : step text = some found) :
    runSteps [step] text = ([found.intent], found.rest) := by
  rw [runSteps, taken]
  rfl

theorem runSteps_eq_self_iff {step : Step} :
    runSteps [step] text = ([], text) ↔ step text = none := by
  cases taken : step text with
  | none => simp [runSteps, taken]
  | some found => simp [runSteps_of_some taken]

/-- A run reports at most one intent for each step, in the order of the steps. -/
theorem kinds_runSteps {sort : Intent → Prop} {run : List Step} {kinds : List IntentKind}
    (each : List.Forall₂ (fun step k => Step.Yields step fun i => i.kind = k ∧ sort i) run kinds)
    (text : List Char) : ((runSteps run text).1.map Intent.kind).Sublist kinds := by
  induction each generalizing text with
  | nil => exact .slnil
  | @cons step k more kinds yields _ ih =>
    rcases runSteps_cons step more text with ⟨found, taken, report⟩ | ⟨-, same⟩
    · rw [report, List.map_cons, (yields text found taken).1]
      exact (ih found.rest).cons_cons k
    · rw [same]
      exact (ih text).cons k

theorem sort_of_mem_runSteps {sort : Intent → Prop} {run : List Step} {kinds : List IntentKind}
    (each : List.Forall₂ (fun step k => Step.Yields step fun i => i.kind = k ∧ sort i) run kinds)
    (text : List Char) : ∀ i ∈ (runSteps run text).1, sort i := by
  induction each generalizing text with
  | nil =>
    intro i member
    cases member
  | @cons step k more kinds yields _ ih =>
    intro i member
    rcases runSteps_cons step more text with ⟨found, taken, report⟩ | ⟨-, same⟩
    · rw [report] at member
      rcases List.mem_cons.mp member with rfl | member
      · exact (yields text found taken).2
      · exact ih found.rest i member
    · rw [same] at member
      exact ih text i member

section Reading

variable (query : String) (orgs : List String) (sources : List Source)

/-- What the steps make of a query: the intents they report and the text they leave. -/
def readSteps : List Intent × List Char :=
  runSteps (steps (lower (trim query.toList)) orgs sources) (trim query.toList)

theorem kinds_readSteps : ((readSteps query orgs sources).1.map Intent.kind).Sublist
    [.owner, .time, .warmth, .source, .company, .role] :=
  kinds_runSteps (forall₂_steps orgs sources _) _

theorem freeText_parse : (parse query orgs sources).freeText =
    String.ofList (stripFillers (readSteps query orgs sources).2) := rfl

theorem intents_parse : (parse query orgs sources).intents = (readSteps query orgs sources).1 ++
    if (parse query orgs sources).freeText.isEmpty then []
    else [nameIntent (parse query orgs sources).freeText] := rfl

end Reading

/-- The steps report no two intents of one kind. -/
theorem eq_of_mem_readSteps {query : String} {orgs : List String} {sources : List Source}
    {i j : Intent} (first : i ∈ (readSteps query orgs sources).1)
    (second : j ∈ (readSteps query orgs sources).1) (same : i.kind = j.kind) : i = j := by
  have distinct : ((readSteps query orgs sources).1.map Intent.kind).Nodup :=
    (kinds_readSteps query orgs sources).nodup (by decide)
  exact List.inj_on_of_nodup_map distinct first second same

/-- The intents of a parsed query are those of the steps and, for free text, one on names. -/
theorem mem_intents_parse {query : String} {orgs : List String} {sources : List Source} {i : Intent}
    (member : i ∈ (parse query orgs sources).intents) :
    (i.kind ≠ .name ∧ Reported orgs sources i) ∨
      ((parse query orgs sources).freeText ≠ "" ∧
        i = nameIntent (parse query orgs sources).freeText) := by
  rw [intents_parse, List.mem_append] at member
  rcases member with found | left
  · have reported := sort_of_mem_runSteps (forall₂_steps orgs sources _) _ i found
    refine .inl ⟨?_, reported⟩
    cases reported <;> simp [ownerIntent, timeIntent, warmthIntent, sourceIntent, companyIntent,
      roleIntent]
  · split at left
    · cases left
    · rename_i given
      exact .inr ⟨by simpa using given, List.mem_singleton.mp left⟩

/-- An intent of another kind than on names was reported by a step. -/
theorem reported_of_kind {query : String} {orgs : List String} {sources : List Source} {i : Intent}
    {k : IntentKind} (member : i ∈ (parse query orgs sources).intents) (kind : i.kind = k)
    (notName : k ≠ .name) : Reported orgs sources i := by
  rcases mem_intents_parse member with ⟨-, reported⟩ | ⟨-, rfl⟩
  · exact reported
  · exact absurd kind.symm notName

/-- Every span of the table is written in a way that it can be read from. -/
theorem readInt?_timePhrases :
    timePhrases.all (fun p => readInt? (natText p.2) == some (p.2 : Int)) = true := by
  decide

/-- The levels of every word of the table are written in a way that they can be read from. -/
private theorem levels?_warmthWords :
    warmthWords.all (fun p => !p.2.isEmpty &&
      Match.levels? (levelsText p.2) == some (p.2.map fun w => (w.level : Int))) = true := by
  decide

/-- Reading never fails, and whatever is read has this shape. -/
theorem parse_isReading (query : String) (orgs : List String) (sources : List Source) :
    (parse query orgs sources).IsReading query orgs sources where
  raw := rfl
  order := by
    have found : ((readSteps query orgs sources).1.map Intent.kind).Sublist
        [.owner, .time, .warmth, .source, .company, .role] :=
      kinds_runSteps (forall₂_steps orgs sources _) _
    rw [intents_parse, List.map_append, IntentKind.readingOrder]
    refine List.Sublist.trans (found.append_right _) (List.Sublist.append_left ?_ _)
    split
    · exact List.nil_sublist _
    · exact .refl _
  time := by
    intro i member kind
    cases reported_of_kind member kind (by decide) with
    | time listed =>
      have readable := List.all_eq_true.mp readInt?_timePhrases _ listed
      exact ⟨_, rfl, by simpa [timeIntent] using readable⟩
    | _ => cases kind
  warmth := by
    intro i member kind
    cases reported_of_kind member kind (by decide) with
    | warmth listed =>
      have readable := List.all_eq_true.mp levels?_warmthWords _ listed
      simp only [Bool.and_eq_true, Bool.not_eq_true', List.isEmpty_eq_false_iff,
        beq_iff_eq] at readable
      exact ⟨_, readable.1, rfl, readable.2⟩
    | _ => cases kind
  source := by
    intro i member kind
    cases reported_of_kind member kind (by decide) with
    | source listed => exact ⟨_, listed, rfl⟩
    | _ => cases kind
  company := by
    intro i member kind
    cases reported_of_kind member kind (by decide) with
    | company listed long => exact ⟨listed, long⟩
    | _ => cases kind
  role := by
    intro i member kind
    cases reported_of_kind member kind (by decide) with
    | role listed => exact listed
    | _ => cases kind
  named := by
    constructor
    · rintro ⟨i, member, kind⟩
      rcases mem_intents_parse member with ⟨other, -⟩ | ⟨given, -⟩
      · exact absurd kind other
      · exact given
    · intro given
      refine ⟨nameIntent (parse query orgs sources).freeText, ?_, rfl⟩
      rw [intents_parse, if_neg (by simpa using given)]
      exact List.mem_append_right _ (List.mem_singleton_self _)
  name := by
    intro i member kind
    rcases mem_intents_parse member with ⟨other, -⟩ | ⟨-, rfl⟩
    · exact absurd kind other
    · rfl
  freeText := by
    rw [freeText_parse, String.toList_ofList]
    rcases stripFillers_cases (readSteps query orgs sources).2 with none | some
    · exact .inl (by rw [none])
    · exact .inr some

end Query

end ContactSearch
