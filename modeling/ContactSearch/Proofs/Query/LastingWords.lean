import ContactSearch.Proofs.Query.Shape
import ContactSearch.Proofs.Text.Removal
import ContactSearch.Proofs.Text.Span

/-!
# Words that outlast the steps

A step takes out a span of the text. Where no span that its patterns cover has a word that is part
of some other word, the step leaves that word in the text, and so does a run of such steps. A later
step that looks for the word then finds it, whatever stands around it.
-/

namespace ContactSearch

open Text

/-- A text has a word that equals this one when case is ignored; the word is given folded. -/
def Text.HasWord (v text : List Char) : Prop :=
  ∃ w ∈ words text, w.map fold = v

namespace Query

/-! ## Spans that are clear of a word -/

/-- A span that starts and ends inside words, none of which, with case ignored, is a part of this
word. -/
structure IsClear (v w : List Char) : Prop where
  front : w.head?.any isWordChar = true
  back : w.getLast?.any isWordChar = true
  apart : ∀ u ∈ words w, ¬ u.map fold <:+: v

/-- Every span that a pattern covers is clear of a word. -/
def Spares (v : List Char) (p : Pattern) : Prop :=
  ∀ before w after, p.Covers before w after → IsClear v w

/-- A literal that can be seen to spare a word: of ASCII characters, and clear of the word. -/
def sparesText (v : List Char) (s : String) : Bool :=
  let key := s.toList.map fold
  key.all (fun c => decide (c.toNat < 128)) && key.head?.any isWordChar &&
    key.getLast?.any isWordChar && (words key).all fun u => !contains u v

variable {v : List Char}

theorem spares_text {s : String} (apart : sparesText v s = true) : Spares v (.text s) := by
  intro before w after covers
  cases covers with
  | literal same =>
    simp only [sparesText, ← same, Bool.and_eq_true, List.all_eq_true, decide_eq_true_eq,
      Bool.not_eq_true'] at apart
    obtain ⟨⟨⟨ascii, front⟩, back⟩, clear⟩ := apart
    have kept : ∀ c ∈ w, isWordChar (fold c) = isWordChar c := fun c member =>
      isWordChar_fold (ascii _ (List.mem_map_of_mem member))
    rw [words_map kept] at clear
    refine ⟨?_, ?_, ?_⟩
    · rwa [List.head?_map, any_isWordChar_map fun c h => kept c (List.mem_of_mem_head? h)] at front
    · rwa [List.getLast?_map, any_isWordChar_map fun c h => kept c (List.mem_of_getLast? h)] at back
    · intro u member inside
      have missing := clear _ (List.mem_map_of_mem member)
      rw [contains_iff.mpr inside] at missing
      cases missing

theorem spares_anyOf {ps : List Pattern} (each : ∀ p ∈ ps, Spares v p) : Spares v (.anyOf ps) := by
  intro before w after covers
  obtain ⟨p, listed, covers⟩ := Pattern.covers_anyOf_iff.mp covers
  exact each p listed before w after covers

/-- Blanks between two spans that are clear of a word join no words. -/
theorem IsClear.join {a w b : List Char} (first : IsClear v a) (second : IsClear v b) (some : w ≠ [])
    (blank : ∀ c ∈ w, isBlank c = true) : IsClear v (a ++ (w ++ b)) := by
  have breaks : ∀ c ∈ w, isWordChar c = false := fun c h => isWordChar_of_isBlank (blank c h)
  have joined : words (a ++ (w ++ b)) = words a ++ words b := by
    cases w with
    | nil => exact absurd rfl some
    | cons c w =>
      obtain ⟨outside, breaks⟩ := List.forall_mem_cons.mp breaks
      rw [List.cons_append, words_append_break outside, words_breaks_append breaks]
  have someA : a ≠ [] := by
    rintro rfl
    exact absurd first.front Bool.false_ne_true
  have someB : b ≠ [] := by
    rintro rfl
    exact absurd second.back Bool.false_ne_true
  refine ⟨?_, ?_, ?_⟩
  · rw [List.head?_append_of_ne_nil a someA]
    exact first.front
  · rw [List.getLast?_append_of_ne_nil a (List.append_ne_nil_of_right_ne_nil w someB),
      List.getLast?_append_of_ne_nil w someB]
    exact second.back
  · intro u member
    rw [joined, List.mem_append] at member
    rcases member with member | member
    · exact first.apart u member
    · exact second.apart u member

theorem spares_spaced {ps : List Pattern} (some : ps ≠ []) (each : ∀ p ∈ ps, Spares v p) :
    Spares v (.spaced ps) := by
  induction ps with
  | nil => exact absurd rfl some
  | cons p ps ih =>
    obtain ⟨here, rest⟩ := List.forall_mem_cons.mp each
    cases ps with
    | nil => exact here
    | cons q ps =>
      intro before w after covers
      obtain ⟨front, gap, back, rfl, between, blank, first, others⟩ :=
        Pattern.covers_spaced_iff.mp covers
      exact (here _ _ _ first).join (ih (List.cons_ne_nil q ps) rest _ _ _ others) between blank

theorem spares_phrase {ws : List String} (some : ws ≠ [])
    (apart : ∀ s ∈ ws, sparesText v s = true) : Spares v (.phrase ws) := by
  refine spares_spaced (by simpa using some) ?_
  intro p listed
  obtain ⟨s, member, rfl⟩ := List.mem_map.mp listed
  exact spares_text (apart s member)

/-- The texts that the phrases for an owner are made of. -/
def ownerTexts (name : String) : List String :=
  ["sourced", "by", "assigned", "to", "owned", "contacts", "people", "list", name, name ++ "'s"]

theorem spares_ownerPatterns {name : String} (apart : ∀ s ∈ ownerTexts name, sparesText v s = true) :
    ∀ p ∈ ownerPatterns name, Spares v p := by
  have among : ∀ ws ⊆ ownerTexts name, ∀ s ∈ ws, sparesText v s = true :=
    fun ws listed s member => apart s (listed member)
  simp only [ownerPatterns, List.forall_mem_cons]
  refine ⟨?_, ?_, ?_, ?_, by simp⟩
  · exact spares_phrase (by simp) (among _ (by simp [ownerTexts]))
  · refine spares_spaced (by simp) (List.forall_mem_cons.mpr ⟨?_, ?_⟩)
    · exact spares_text (apart _ (by simp [ownerTexts]))
    · intro p member
      rw [List.mem_singleton.mp member]
      refine spares_anyOf ?_
      simp only [List.forall_mem_cons]
      refine ⟨?_, ?_, ?_, by simp⟩
      all_goals exact spares_text (apart _ (by simp [ownerTexts]))
  · exact spares_phrase (by simp) (among _ (by simp [ownerTexts]))
  · exact spares_phrase (by simp) (among _ (by simp [ownerTexts]))

/-! ## Steps that keep a word -/

/-- Whatever the step finds, the word stays in the text. -/
def Step.Keeps (v : List Char) (step : Step) : Prop :=
  ∀ text found, step text = some found → HasWord v text → HasWord v found.rest

theorem hasWord_rest {p : Pattern} {text : List Char} {cut : Cut} (spares : Spares v p)
    (found : p.find? text = some cut) (has : HasWord v text) : HasWord v cut.rest := by
  obtain ⟨whole, covers⟩ := Pattern.covers_of_find? found
  obtain ⟨front, back, apart⟩ := spares _ _ _ covers
  obtain ⟨w, member, rfl⟩ := has
  rw [whole] at member
  rcases mem_words_of_removal front back member with outlasts | ⟨u, inSpan, covered⟩
  · exact ⟨w, by rwa [Cut.rest, words_trim], rfl⟩
  · exact absurd (covered.map fold) (apart u inSpan)

theorem keeps_takeOut? {ps : List Pattern} (intent : Intent) (spares : ∀ p ∈ ps, Spares v p) :
    Step.Keeps v (takeOut? ps intent) := by
  intro text found taken has
  obtain ⟨cut, first, rfl⟩ := Option.map_eq_some_iff.mp taken
  obtain ⟨p, listed, there⟩ := List.exists_of_findSome?_eq_some first
  exact hasWord_rest (spares p listed) there has

theorem keeps_extractOwner (spares : ∀ o ∈ owners, ∀ p ∈ ownerPatterns o.name, Spares v p) :
    Step.Keeps v extractOwner := by
  intro text found taken
  obtain ⟨o, listed, taken⟩ := List.exists_of_findSome?_eq_some taken
  exact keeps_takeOut? (ownerIntent o) (spares o listed) text found taken

theorem keeps_extractTime (lowered : List Char) (spares : ∀ p ∈ timePhrases, Spares v (.text p.1)) :
    Step.Keeps v (extractTime lowered) := by
  intro text found taken has
  obtain ⟨⟨phrase, days⟩, occurs, rfl⟩ := Option.map_eq_some_iff.mp taken
  have listed := List.mem_of_find?_eq_some occurs
  cases there : takeOut? [.text phrase] (timeIntent phrase days) text with
  | none => simpa [there] using has
  | some found =>
    have only : ∀ p ∈ [Pattern.text phrase], Spares v p := by
      intro p member
      rw [List.mem_singleton.mp member]
      exact spares _ listed
    simpa [there] using keeps_takeOut? _ only text found there has

/-- Steps that keep a word, run one after another, keep it. -/
theorem hasWord_runSteps {run : List Step} (each : ∀ step ∈ run, Step.Keeps v step)
    {text : List Char} (has : HasWord v text) : HasWord v (runSteps run text).2 := by
  induction run generalizing text with
  | nil => exact has
  | cons step run ih =>
    obtain ⟨here, rest⟩ := List.forall_mem_cons.mp each
    cases taken : step text with
    | none =>
      rw [runSteps, taken]
      exact ih rest has
    | some found =>
      rw [runSteps, taken]
      exact ih rest (here text found taken has)

/-- A pattern for a word is found where the text has that word. -/
theorem find?_word_of_hasWord {s : String} {text : List Char}
    (has : HasWord (s.toList.map fold) text) : ∃ cut, (Pattern.word s).find? text = some cut := by
  obtain ⟨w, member, same⟩ := has
  obtain ⟨some, letters, a, b, rfl, left, right⟩ := mem_words_iff.mp member
  have covers : (Pattern.word s).Covers a.reverse w b := by
    refine Pattern.covers_word_iff.mpr ⟨same, ?_, ?_⟩
    · rwa [isBoundary_front_iff some letters, List.head?_reverse]
    · exact (isBoundary_back_iff some letters _ _).mpr right
  cases found : (Pattern.word s).find? (a ++ w ++ b) with
  | some cut => exact ⟨cut, rfl⟩
  | none => exact absurd covers (Pattern.find?_eq_none_iff.mp found a w b rfl)

theorem runSteps_append (front more : List Step) (text : List Char) :
    runSteps (front ++ more) text =
      ((runSteps front text).1 ++ (runSteps more (runSteps front text).2).1,
        (runSteps more (runSteps front text).2).2) := by
  induction front generalizing text with
  | nil => rfl
  | cons step front ih =>
    cases taken : step text with
    | none => simp only [List.cons_append, runSteps, taken, ih]
    | some found => simp only [List.cons_append, runSteps, taken, ih]

/-! ## The word "cold" -/

theorem sparesText_cold :
    (∀ o ∈ owners, ∀ s ∈ ownerTexts o.name, sparesText "cold".toList s = true) ∧
      ∀ p ∈ timePhrases, sparesText "cold".toList p.1 = true := by
  decide +kernel

/-- The entry for "cold" is the first one of its table, so it is reported where that word stands. -/
theorem extractWarmth_of_cold {text : List Char} (cold : HasWord "cold".toList text) :
    ∃ rest, extractWarmth text = some ⟨warmthIntent "cold" [.cold], rest⟩ := by
  have folded : "cold".toList.map fold = "cold".toList := by decide
  rw [← folded] at cold
  obtain ⟨cut, found⟩ := find?_word_of_hasWord cold
  refine ⟨cut.rest, ?_⟩
  rw [extractWarmth, warmthWords, List.findSome?_cons]
  simp only [takeOut?, List.findSome?_cons, found, Option.map_some]

/-- The steps before that for warmth leave the word in the text. -/
theorem mem_readSteps_of_cold {query : String} (cold : HasWord "cold".toList query.toList)
    (orgs : List String) (sources : List Source) :
    warmthIntent "cold" [.cold] ∈ (readSteps query orgs sources).1 := by
  have start : HasWord "cold".toList (trim query.toList) := by
    rwa [HasWord, words_trim]
  have each : ∀ step ∈ [extractOwner, extractTime (lower (trim query.toList))],
      Step.Keeps "cold".toList step := by
    simp only [List.forall_mem_cons]
    refine ⟨?_, ?_, by simp⟩
    · exact keeps_extractOwner fun o listed => spares_ownerPatterns (sparesText_cold.1 o listed)
    · exact keeps_extractTime _ fun p listed => spares_text (sparesText_cold.2 p listed)
  have kept := hasWord_runSteps each start
  obtain ⟨rest, found⟩ := extractWarmth_of_cold kept
  have split : steps (lower (trim query.toList)) orgs sources =
      [extractOwner, extractTime (lower (trim query.toList))] ++
        extractWarmth :: [extractSource sources, extractCompany orgs, extractRole] := rfl
  rw [readSteps, split, runSteps_append]
  refine List.mem_append_right _ ?_
  rw [runSteps, found]
  exact List.mem_cons_self

end Query

end ContactSearch
