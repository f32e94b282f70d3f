import ContactSearch.Proofs.Query.LastingWords
import ContactSearch.Proofs.Query.Shape
import ContactSearch.Proofs.Search.Additive

/-!
# Searches for the word "cold"

The entry for "cold" comes before the one for "not cold" in the table of words for warmth, and the
first entry that occurs is reported. So whatever stands before the word "cold", "not" included, a
query that has it asks for the cold contacts.
-/

namespace ContactSearch

open Calendar Query Text

/-- A text that has the word "cold", and has it only right behind "not" and a space. -/
def AsksNotCold (text : List Char) : Prop :=
  HasWord "cold".toList text ∧
    ∀ a w b, text = a ++ w ++ b → w.map fold = "cold".toList →
      a.getLast?.any isWordChar = false → b.head?.any isWordChar = false →
      ∃ front negation, a = front ++ negation ∧ negation.map fold = "not ".toList

namespace Search

variable {now : Timestamp} {c : Contact} {query : String}

theorem intent?_cold (now : Timestamp) (c : Contact) :
    Match.intent? now (warmthIntent "cold" [.cold]) c =
      .ok (if c.warmth = .cold then some ⟨40, "Warmth: Cold"⟩ else none) := by
  have listed : Match.levels? (levelsText [.cold]) = some [0] := by decide
  simp only [Match.intent?, warmthIntent, listed, Option.bind_some, Match.warmth?]
  cases c.warmth <;> rfl

/-- The only intent on warmth of a query that has the word "cold". -/
theorem warmthIntent_parse_iff (cold : HasWord "cold".toList query.toList) (orgs : List String)
    (sources : List Source) (i : Intent) :
    i ∈ (parse query orgs sources).intents ∧ i.kind = .warmth ↔ i = warmthIntent "cold" [.cold] := by
  have reported : warmthIntent "cold" [.cold] ∈ (readSteps query orgs sources).1 :=
    mem_readSteps_of_cold cold orgs sources
  constructor
  · rintro ⟨member, kind⟩
    rw [intents_parse, List.mem_append] at member
    rcases member with found | left
    · exact eq_of_mem_readSteps found reported kind
    · split at left
      · cases left
      · rw [List.mem_singleton.mp left] at kind
        cases kind
  · rintro rfl
    refine ⟨?_, rfl⟩
    rw [intents_parse]
    exact List.mem_append_left _ reported

/-- A query that has the word "cold" asks for the cold contacts, also behind "not": its only intent
on warmth lists each of them with that reason, and no other contact for the sake of it. -/
theorem run_parse_lists_cold (cold : HasWord "cold".toList query.toList) (orgs : List String)
    (sources : List Source) (now : Timestamp) :
    (∀ i, i ∈ (parse query orgs sources).intents ∧ i.kind = .warmth ↔
      i = warmthIntent "cold" [.cold]) ∧
    ∀ contacts results, run now (parse query orgs sources) contacts = .ok results →
      (∀ c ∈ contacts, c.warmth = .cold → ∃ r ∈ results, r.contactId = c.id ∧
        "Warmth: Cold" ∈ r.reasons) ∧
      ∀ r ∈ results, warmthIntent "cold" [.cold] ∈ r.intents → ∃ c ∈ contacts,
        r.contactId = c.id ∧ c.warmth = .cold := by
  refine ⟨warmthIntent_parse_iff cold orgs sources, ?_⟩
  intro contacts results ran
  have asked := ((warmthIntent_parse_iff cold orgs sources _).mpr rfl).1
  constructor
  · intro c listed isCold
    have hit := intent?_cold now c
    rw [if_pos isCold] at hit
    obtain ⟨r, found, contact, told⟩ := exists_resultOf_of_hit asked hit
    exact ⟨r, (mem_results_iff ran).mpr ⟨c, listed, found⟩, contact, told⟩
  · intro r member matched
    obtain ⟨c, listed, found⟩ := (mem_results_iff ran).mp member
    have reports := reports_resultOf found
    refine ⟨c, listed, reports.contact, ?_⟩
    rw [reports.intents, List.mem_filter, Match.hits, intent?_cold] at matched
    by_contra other
    simp [other] at matched

theorem adaNotCold_is_listed : HasWord "cold".toList "not cold".toList ∧
    ∃ results, run .juneMorning (parse "not cold" [] []) [.known "Ada" "Byron" .cold] = .ok results ∧
      ∃ r ∈ results, r.contactId = 1 ∧ "Warmth: Cold" ∈ r.reasons := by
  have cold : HasWord "cold".toList "not cold".toList := ⟨"cold".toList, by decide +kernel⟩
  have listed := (run_parse_lists_cold cold [] [] .juneMorning).2 [.known "Ada" "Byron" .cold]
    [⟨1, 40, ["Warmth: Cold"], [warmthIntent "cold" [.cold]]⟩] (by decide +kernel)
  refine ⟨cold, _, ?_, listed.1 (.known "Ada" "Byron" .cold) List.mem_cons_self rfl⟩
  decide +kernel

/-- That a query asks for "not cold" does not keep cold contacts out. -/
theorem notCold_lists_cold : AsksNotCold "not cold".toList ∧
    ∃ r, run .juneMorning (parse "not cold" [] []) [.known "Ada" "Byron" .cold] = .ok [r] ∧
      "Warmth: Cold" ∈ r.reasons := by
  refine ⟨⟨⟨"cold".toList, by decide +kernel⟩, ?_⟩,
    ⟨1, 40, ["Warmth: Cold"], [warmthIntent "cold" [.cold]]⟩, by decide +kernel, by decide⟩
  intro a w b whole same _ _
  have long : w.length = 4 := by simpa using congrArg List.length same
  have short : a.length + 4 + b.length = 8 := by
    rw [← long, ← List.length_append, ← List.length_append, ← whole]
    rfl
  have start : a = "not cold".toList.take a.length := by
    rw [whole, List.append_assoc, List.take_left]
  have span : w = ("not cold".toList.drop a.length).take 4 := by
    rw [whole, List.append_assoc, List.drop_left, ← long, List.take_left]
  have only : ∀ n ≤ 4, (("not cold".toList.drop n).take 4).map fold = "cold".toList → n = 4 := by
    decide
  rw [only a.length (by omega) (span ▸ same)] at start
  exact ⟨[], a, rfl, by rw [start]; decide⟩

end Search

end ContactSearch
