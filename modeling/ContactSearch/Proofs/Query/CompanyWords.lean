import ContactSearch.Proofs.Query.Companies
import ContactSearch.Proofs.Text.Tearing

/-!
# Words beside an organization

What the company step leaves of a text has the words of the text, but for those that the removal
tears. A name that was found as a word of its own tears none, unless it neither starts nor ends with a
word character. The phrase of a preposition and a name is looked for inside words as well: it tears a
word wherever one goes on in front of the preposition or behind the name.
-/

namespace ContactSearch.Query

open Text

/-- Taking out the span of a cut leaves the words on its two sides. If the span tears a word, one is left
that the removal made, and none but such words are new to the text. -/
structure LeavesWords (cut : Cut) : Prop where
  kept : ∀ w ∈ words cut.rest,
    w ∈ words (cut.before ++ cut.found ++ cut.after) ∨ cut.Tears ∧ cut.Forms w
  whole : ¬ cut.Tears → words cut.rest = words cut.before ++ words cut.after
  torn : cut.Tears → ∃ w ∈ words cut.rest, cut.Forms w

theorem leavesWords (cut : Cut) : LeavesWords cut where
  kept := fun _ member => mem_words_rest member
  whole := fun whole => (words_rest_of_not_tears whole).1
  torn := exists_formed_of_tears

/-- The two ways in which an organization is found, with what tears a word in each. -/
inductive CoversName (org : String) (cut : Cut) : Prop
  /-- After a preposition: a word goes on in front of the preposition, or behind the name. -/
  | led (covers : (Pattern.spaced [beforeCompany, .text org]).Covers
      cut.before.reverse cut.found cut.after)
    (tears : cut.Tears ↔ cut.before.getLast?.any isWordChar = true ∨
      cut.found.getLast?.any isWordChar = true ∧ cut.after.head?.any isWordChar = true)
  /-- As a word of its own: the name has other characters at both of its ends. -/
  | alone (covers : (Pattern.word org).Covers cut.before.reverse cut.found cut.after)
    (tears : cut.Tears ↔ cut.found.head?.any isWordChar = false ∧
      cut.found.getLast?.any isWordChar = false)

section Ways

variable {org : String} {cut : Cut}

/-- A preposition starts with a letter, so a word in front of it goes on in the span. -/
theorem coversName_of_led
    (covers : (Pattern.spaced [beforeCompany, .text org]).Covers
      cut.before.reverse cut.found cut.after) : CoversName org cut := by
  have letter : beforeCompany.startsWithLetter = true := by decide
  have inside := covers.head_isWordChar letter
  refine .led covers ⟨?_, ?_⟩
  · intro tears
    cases tears with
    | front before _ | across before _ => exact .inl before
    | back span after => exact .inr ⟨span, after⟩
  · rintro (before | ⟨span, after⟩)
    · exact .front before inside
    · exact .back span after

/-- A word edge lies at both ends of the span. So a word in front of it does not go on in it, nor one
at its end behind it, and words meet only where both ends of the span are outside of words. -/
theorem coversName_of_alone (some : org.toList ≠ [])
    (covers : (Pattern.word org).Covers cut.before.reverse cut.found cut.after) : CoversName org cut := by
  refine .alone covers ?_
  obtain ⟨-, start, stop⟩ := Pattern.covers_word_iff.mp covers
  have inhabited := (Pattern.forces_word org _ _ _ covers).ne_nil some
  rw [List.head?_append_of_ne_nil _ inhabited, List.head?_reverse] at start
  rw [List.head?_append_of_ne_nil _ (by simpa using inhabited), List.head?_reverse] at stop
  constructor
  · intro tears
    cases tears with
    | front before span =>
      rw [(isBoundary_right_iff span).mp start] at before
      cases before
    | back span after =>
      rw [(isBoundary_left_iff span).mp stop] at after
      cases after
    | across before after =>
      exact ⟨(isBoundary_left_iff before).mp start, (isBoundary_right_iff after).mp stop⟩
  · rintro ⟨first, last⟩
    exact .across ((isBoundary_left_iff_of_outside first).mp start)
      ((isBoundary_right_iff_of_outside last).mp stop)

end Ways

/-- The company step takes this span out of the text for the longest organization that the text names. -/
structure TakesOutCompany (orgs : List String) (text : List Char) (org : String) (cut : Cut) :
    Prop where
  first : IsFirstLongest orgs text org
  whole : text = cut.before ++ cut.found ++ cut.after
  report : runSteps [extractCompany orgs] text = ([companyIntent org], cut.rest)
  words : LeavesWords cut
  name : CoversName org cut

/-- The company step leaves a text alone that names no organization, and takes one span out of any other.
Every word that is left then is a word of the text, or was made of words that the span tears. -/
theorem extractCompany_leavesWords (orgs : List String) (text : List Char) :
    (runSteps [extractCompany orgs] text = ([], text) ∧ ∀ org ∈ orgs, ¬ Names text org) ∨
      ∃ org cut, TakesOutCompany orgs text org cut := by
  cases taken : extractCompany orgs text with
  | none => exact .inl ⟨runSteps_eq_self_iff.mpr taken, extractCompany_eq_none_iff.mp taken⟩
  | some found =>
    obtain ⟨org, first, there⟩ := isFirstLongest_of_extractCompany taken
    have some := toList_ne_nil first.holds.1
    have intent := intent_of_takeOut? there
    obtain ⟨cut, hit, rfl⟩ := Option.map_eq_some_iff.mp there
    obtain ⟨p, way, hit⟩ := List.exists_of_findSome?_eq_some hit
    obtain ⟨whole, covers⟩ := Pattern.covers_of_find? hit
    refine .inr ⟨org, cut, first, whole, runSteps_of_some taken, leavesWords cut, ?_⟩
    rcases mem_companyPatterns.mp way with rfl | rfl
    · exact coversName_of_led covers
    · exact coversName_of_alone some covers

/-- The phrase "at Apollo" is taken out of "what Apollo", and what is left of "what" is no word of the
text. -/
theorem whatApollo_is_torn :
    runSteps [extractCompany ["Apollo"]] "what Apollo".toList =
      ([companyIntent "Apollo"], "wh".toList) ∧
    "wh".toList ∈ words "wh".toList ∧ "wh".toList ∉ words "what Apollo".toList := by
  refine ⟨?_, by decide +kernel, by decide +kernel⟩
  rw [runSteps, extractCompany, companyOrder, List.mergeSort_singleton]
  decide +kernel

end ContactSearch.Query
