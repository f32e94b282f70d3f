import ContactSearch.Proofs.Query.Companies
import ContactSearch.Proofs.Query.Spans
import ContactSearch.Proofs.Text.Keyword

/-!
# Organizations that stand alone

The name of an organization stands in a text with blanks or nothing beside it. It is found there if it
starts and ends with word characters, or if a preposition leads to it. A name that starts or ends with
another character has no word edge at that end, so without a preposition it is passed over, although
nothing stands beside it.
-/

namespace ContactSearch.Query

open Text

/-- A name that starts and ends with word characters. -/
def HasWordEnds (org : String) : Prop :=
  org.toList.head?.any isWordChar = true ∧ org.toList.getLast?.any isWordChar = true

/-- A text that leads to the name of an organization: it ends with "at" or "from", and blanks. -/
def LeadsIn (before : List Char) : Prop :=
  ∃ front w gap, before = front ++ (w ++ gap) ∧
    (w.map fold = "at".toList.map fold ∨ w.map fold = "from".toList.map fold) ∧
    gap ≠ [] ∧ ∀ c ∈ gap, isBlank c = true

/-- A pattern for the organization covers a span that ends in this place. -/
def IsFoundAt (org : String) (before after : List Char) : Prop :=
  ∃ p ∈ companyPatterns org, ∃ front span, before ++ org.toList = front ++ span ∧
    p.Covers front.reverse span after

/-- What leads to an organization ends with one of two prepositions. -/
theorem exists_preposition {around u after : List Char} (covers : beforeCompany.Covers around u after) :
    ∃ front w, u = front ++ w ∧
      (w.map fold = "at".toList.map fold ∨ w.map fold = "from".toList.map fold) := by
  have at_last : ∀ ps : List Pattern,
      (Pattern.spaced (ps ++ [.text "at"])).Covers around u after →
        ∃ front w, u = front ++ w ∧
          (w.map fold = "at".toList.map fold ∨ w.map fold = "from".toList.map fold) := by
    intro ps covers
    obtain ⟨front, w, _, rfl, last⟩ := Pattern.exists_covers_last covers
    exact ⟨front, w, rfl, .inl (Pattern.covers_text_iff.mp last)⟩
  obtain ⟨p, listed, covers⟩ := Pattern.covers_anyOf_iff.mp covers
  simp only [List.mem_cons, List.not_mem_nil, or_false] at listed
  rcases listed with rfl | rfl | rfl | rfl | rfl | rfl
  · exact at_last [] covers
  · exact ⟨[], u, rfl, .inr (Pattern.covers_text_iff.mp covers)⟩
  · exact at_last [.text "people"] covers
  · exact at_last [.text "contacts"] covers
  · exact at_last [.text "team"] covers
  · exact at_last [.text "who", .seq (.text "work") (.optional (.text "s"))] covers

section Place

variable {org : String} {before after : List Char}

theorem isFoundAt_of_leadsIn (leads : LeadsIn before) : IsFoundAt org before after := by
  obtain ⟨front, w, gap, rfl, preposition, some, blank⟩ := leads
  refine ⟨_, mem_companyPatterns.mpr (.inl rfl), front, w ++ (gap ++ org.toList), by simp, ?_⟩
  refine Pattern.covers_spaced_iff.mpr ⟨w, gap, org.toList, rfl, some, blank, ?_, .literal rfl⟩
  rcases preposition with same | same
  · exact Pattern.covers_anyOf_iff.mpr ⟨.text "at", by simp, .literal same⟩
  · exact Pattern.covers_anyOf_iff.mpr ⟨.text "from", by simp, .literal same⟩

/-- The name alone is covered if its ends are word edges. -/
theorem covers_word_self_iff (long : 2 ≤ org.length)
    (left : before.getLast?.any isWordChar = false) (right : after.head?.any isWordChar = false) :
    (Pattern.word org).Covers before.reverse org.toList after ↔ HasWordEnds org := by
  have some := toList_ne_nil long
  rw [Pattern.covers_word_iff, List.head?_append_of_ne_nil _ some, List.head?_reverse,
    List.head?_append_of_ne_nil _ (by simpa using some), List.head?_reverse,
    isBoundary_right_iff_of_outside left, isBoundary_left_iff_of_outside right]
  exact and_iff_right rfl

/-- A name that stands alone is found in its place if a preposition leads to it, or if it starts and
ends with word characters. -/
theorem isFoundAt_iff (long : 2 ≤ org.length) (left : before.getLast?.any isWordChar = false)
    (right : after.head?.any isWordChar = false) :
    IsFoundAt org before after ↔ HasWordEnds org ∨ LeadsIn before := by
  constructor
  · rintro ⟨p, way, front, span, whole, covers⟩
    -- Both patterns end with a text as long as the name, so the name is what they end with here.
    rcases mem_companyPatterns.mp way with rfl | rfl
    · obtain ⟨u, gap, v, rfl, some, blank, leading, name⟩ := Pattern.covers_spaced_iff.mp covers
      have equal := congrArg List.length (Pattern.covers_text_iff.mp name)
      rw [List.length_map, List.length_map] at equal
      have parts : before ++ org.toList = (front ++ (u ++ gap)) ++ v := by simpa using whole
      obtain ⟨rfl, -⟩ := List.append_inj' parts equal.symm
      obtain ⟨more, w, rfl, preposition⟩ := exists_preposition leading
      exact .inr ⟨front ++ more, w, gap, by simp, preposition, some, blank⟩
    · have equal := congrArg List.length (Pattern.covers_word_iff.mp covers).1
      rw [List.length_map, List.length_map] at equal
      obtain ⟨rfl, rfl⟩ := List.append_inj' whole equal.symm
      exact .inl ((covers_word_self_iff long left right).mp covers)
  · rintro (ends | leads)
    · refine ⟨.word org, mem_companyPatterns.mpr (.inr rfl), before, org.toList, rfl, ?_⟩
      exact (covers_word_self_iff long left right).mpr ends
    · exact isFoundAt_of_leadsIn leads

theorem IsFoundAt.names (found : IsFoundAt org before after) (long : 2 ≤ org.length) :
    Names (before ++ org.toList ++ after) org := by
  obtain ⟨p, way, front, span, whole, covers⟩ := found
  exact ⟨long, p, way, front, span, after, by rw [whole], covers⟩

end Place

theorem not_leadsIn_nil : ¬ LeadsIn [] := by
  rintro ⟨front, w, gap, whole, -, some, -⟩
  obtain ⟨-, rest⟩ := List.append_eq_nil_iff.mp whole.symm
  exact some (List.append_eq_nil_iff.mp rest).2

/-- In a text that is nothing but the name there is no other place where it could be found. -/
theorem names_self_iff {org : String} (long : 2 ≤ org.length) :
    Names org.toList org ↔ HasWordEnds org := by
  have here := @isFoundAt_iff org [] [] long rfl rfl
  rw [or_iff_left not_leadsIn_nil] at here
  rw [← here]
  constructor
  · rintro ⟨-, p, way, front, span, back, whole, covers⟩
    -- The span has the name in it, so nothing of the text is left beside the span.
    have named := (forces_of_mem_companyPatterns way _ _ _ covers).length_le
    have lengths := congrArg List.length whole
    simp only [List.length_map, List.length_append] at named lengths
    obtain rfl : front = [] := List.eq_nil_of_length_eq_zero (by omega)
    obtain rfl : back = [] := List.eq_nil_of_length_eq_zero (by omega)
    exact ⟨p, way, [], span, by simpa using whole, covers⟩
  · intro found
    simpa using found.names long

section Standing

variable {orgs : List String} {org : String} {before after : List Char}

/-- A known organization that stands alone in a text is found in its place if it starts and ends with
word characters or a preposition leads to it, and then one at least as long is reported. Without a
preposition, a name with another character at one of its ends is not even found in a text that is
nothing but the name. -/
theorem extractCompany_of_standing (listed : org ∈ orgs) (long : 2 ≤ org.length)
    (left : ∀ c ∈ before.getLast?, isBlank c = true) (right : ∀ c ∈ after.head?, isBlank c = true) :
    (IsFoundAt org before after ↔ HasWordEnds org ∨ LeadsIn before) ∧
    (IsFoundAt org before after → ∃ longer rest,
      runSteps [extractCompany orgs] (before ++ org.toList ++ after) = ([companyIntent longer], rest) ∧
        org.length ≤ longer.length) ∧
    (runSteps [extractCompany [org]] org.toList = ([], org.toList) ↔ ¬ HasWordEnds org) := by
  refine ⟨?place, ?reported, ?alone⟩
  case place =>
    exact isFoundAt_iff long (any_isWordChar_of_isBlank left) (any_isWordChar_of_isBlank right)
  case reported =>
    intro found
    have named := found.names long
    obtain ⟨longer, first⟩ := exists_isFirstLongest ⟨org, listed, named⟩
    obtain ⟨rest, report⟩ := exists_runSteps_company_iff.mpr first
    exact ⟨longer, rest, report, first.key_le listed named⟩
  case alone =>
    rw [runSteps_eq_self_iff, extractCompany_eq_none_iff, List.forall_mem_singleton,
      names_self_iff long]

end Standing

/-- This name ends with a dot, but a preposition leads to it. -/
theorem acmeInc_is_reported : LeadsIn "people at ".toList ∧ ∃ longer rest,
    runSteps [extractCompany ["Acme", "Acme Inc."]]
        ("people at ".toList ++ "Acme Inc.".toList ++ " now".toList) =
      ([companyIntent longer], rest) ∧ "Acme Inc.".length ≤ longer.length := by
  have space : isBlank ' ' = true := by decide
  have leads : LeadsIn "people at ".toList :=
    ⟨"people ".toList, "at".toList, " ".toList, rfl, .inl rfl, by simp, by simpa using space⟩
  obtain ⟨place, reported, -⟩ := @extractCompany_of_standing ["Acme", "Acme Inc."] "Acme Inc."
    "people at ".toList " now".toList (by simp) (by decide) (by simpa using space)
    (by simpa using space)
  exact ⟨leads, reported (place.mpr (.inr leads))⟩

/-- Nothing stands beside the name, and no blanks belong to it, but it is passed over. -/
theorem acmeInc_is_missed :
    2 ≤ "Acme Inc.".length ∧ trim "Acme Inc.".toList = "Acme Inc.".toList ∧
      runSteps [extractCompany ["Acme Inc."]] ([] ++ "Acme Inc.".toList ++ []) =
        ([], "Acme Inc.".toList) := by
  refine ⟨by decide, by decide, ?_⟩
  rw [List.nil_append, List.append_nil, runSteps_eq_self_iff, extractCompany_eq_none_iff,
    List.forall_mem_singleton, names_self_iff (by decide), HasWordEnds]
  decide

end ContactSearch.Query
