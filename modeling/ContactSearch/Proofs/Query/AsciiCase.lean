import ContactSearch.Proofs.Text.AsciiCase
import ContactSearch.Proofs.Query.Shape

/-!
# Queries that differ in the case of ASCII letters

Every step of reading a query finds the same intent whatever the case of the ASCII letters, and
takes it out at the same place. So two queries that differ in nothing else are read alike: the
intents agree but for the one on names, which keeps the letters of the free text as they are.
-/

namespace ContactSearch

open Text

/-- Two intents that are equal or stand for names that differ in the case of ASCII letters. -/
structure Intent.Alike (i j : Intent) : Prop where
  kind : i.kind = j.kind
  value : AsciiAlike i.value.toList j.value.toList
  same : i.kind ≠ .name → i = j

/-- Two readings that agree but for the case of ASCII letters in what was left as free text. -/
structure ParsedQuery.Alike (p q : ParsedQuery) : Prop where
  raw : AsciiAlike p.raw.toList q.raw.toList
  freeText : AsciiAlike p.freeText.toList q.freeText.toList
  intents : List.Forall₂ Intent.Alike p.intents q.intents

@[refl] theorem Intent.Alike.refl (i : Intent) : i.Alike i :=
  ⟨rfl, rfl, fun _ => rfl⟩

namespace Query

/-- A finding with the ASCII letters of what it leaves in lower case. -/
def Finding.asciiLower (found : Finding) : Finding :=
  ⟨found.intent, Text.asciiLower found.rest⟩

/-- A step that finds the same, and leaves the same, whatever the case of the ASCII letters. -/
def Step.IgnoresAsciiCase (step : Step) : Prop :=
  ∀ text, step (asciiLower text) = (step text).map Finding.asciiLower

theorem takeOut?_ignoresAsciiCase (ps : List Pattern) (i : Intent) :
    Step.IgnoresAsciiCase (takeOut? ps i) := by
  intro text
  have cut : (ps.findSome? fun p => p.find? (asciiLower text)) =
      (ps.findSome? fun p => p.find? text).map Cut.asciiLower := by
    rw [List.map_findSome?]
    exact congrArg (List.findSome? · ps) (funext fun p => p.find?_asciiLower text)
  rw [takeOut?, takeOut?, cut, Option.map_map, Option.map_map]
  exact congrArg (Option.map · _) (funext fun c => by
    simp [Finding.asciiLower, Cut.rest_asciiLower])

/-- A step that tries the entries of a table takes the same one. -/
theorem findSome?_ignoresAsciiCase {α : Type} (table : List α) {step : α → Step}
    (each : ∀ a, (step a).IgnoresAsciiCase) :
    Step.IgnoresAsciiCase fun text => table.findSome? fun a => step a text := by
  intro text
  rw [List.map_findSome?]
  exact congrArg (List.findSome? · table) (funext fun a => each a text)

theorem extractTime_ignoresAsciiCase (lowered : List Char) :
    Step.IgnoresAsciiCase (extractTime lowered) := by
  intro text
  unfold extractTime
  rw [Option.map_map]
  refine congrArg (Option.map · _) (funext fun entry => ?_)
  simp only [takeOut?_ignoresAsciiCase _ _ text, Function.comp]
  cases takeOut? [.text entry.1] (timeIntent entry.1 entry.2) text <;> rfl

theorem steps_ignoreAsciiCase (lowered : List Char) (orgs : List String) (sources : List Source) :
    ∀ step ∈ steps lowered orgs sources, step.IgnoresAsciiCase := by
  have tried {α : Type} (table : List α) (ps : α → List Pattern) (intent : α → Intent) :
      Step.IgnoresAsciiCase fun text =>
        table.findSome? fun a => takeOut? (ps a) (intent a) text :=
    findSome?_ignoresAsciiCase table fun a => takeOut?_ignoresAsciiCase (ps a) (intent a)
  intro step listed
  simp only [steps, List.mem_cons, List.not_mem_nil, or_false] at listed
  rcases listed with rfl | rfl | rfl | rfl | rfl | rfl
  · exact tried owners _ _
  · exact extractTime_ignoresAsciiCase lowered
  · exact tried warmthWords _ _
  · exact tried sources _ _
  · exact tried (companyOrder orgs) _ _
  · exact tried roles _ _

/-- A run of such steps reports the same intents. -/
theorem runSteps_asciiLower {run : List Step} (each : ∀ step ∈ run, step.IgnoresAsciiCase)
    (text : List Char) : runSteps run (asciiLower text) =
      ((runSteps run text).1, asciiLower (runSteps run text).2) := by
  induction run generalizing text with
  | nil => rfl
  | cons step more ih =>
    have later := ih fun next listed => each next (List.mem_cons_of_mem step listed)
    rw [runSteps, runSteps, each step List.mem_cons_self text]
    cases step text with
    | none => exact later text
    | some found => simp [Finding.asciiLower, later]

theorem stripFillers_asciiLower (text : List Char) :
    stripFillers (asciiLower text) = asciiLower (stripFillers text) := by
  simp only [stripFillers, Pattern.erase_asciiLower, squeeze_asciiLower, trim_asciiLower,
    length_asciiLower, any_isWordChar_asciiLower]
  split <;> rfl

/-- The steps report the same intents of queries that are alike, and leave texts that are. -/
theorem readSteps_alike {a b : String} (alike : AsciiAlike a.toList b.toList)
    (orgs : List String) (sources : List Source) :
    (readSteps a orgs sources).1 = (readSteps b orgs sources).1 ∧
      AsciiAlike (readSteps a orgs sources).2 (readSteps b orgs sources).2 := by
  have trimmed : AsciiAlike (trim a.toList) (trim b.toList) := by
    rw [AsciiAlike, ← trim_asciiLower, alike, trim_asciiLower]
  have ignores := steps_ignoreAsciiCase (lower (trim b.toList)) orgs sources
  have same := congrArg (runSteps (steps (lower (trim b.toList)) orgs sources)) trimmed
  rw [runSteps_asciiLower ignores, runSteps_asciiLower ignores] at same
  rw [readSteps, readSteps, trimmed.lower_eq]
  exact Prod.ext_iff.mp same

theorem nameIntent_alike {s t : String} (alike : AsciiAlike s.toList t.toList) :
    (nameIntent s).Alike (nameIntent t) :=
  ⟨rfl, alike, fun other => absurd rfl other⟩

/-- Queries that are alike are read alike. -/
theorem parse_alike {a b : String} (alike : AsciiAlike a.toList b.toList)
    (orgs : List String) (sources : List Source) :
    (parse a orgs sources).Alike (parse b orgs sources) := by
  obtain ⟨same, left⟩ := readSteps_alike alike orgs sources
  have freeText : AsciiAlike (parse a orgs sources).freeText.toList
      (parse b orgs sources).freeText.toList := by
    rw [freeText_parse, freeText_parse, String.toList_ofList, String.toList_ofList, AsciiAlike,
      ← stripFillers_asciiLower, left, stripFillers_asciiLower]
  refine ⟨alike, freeText, ?_⟩
  rw [intents_parse, intents_parse, same, freeText.isEmpty_eq]
  refine List.rel_append (List.forall₂_same.mpr fun i _ => .refl i) ?_
  split
  · exact .nil
  · exact .cons (nameIntent_alike freeText) .nil

end Query

end ContactSearch
