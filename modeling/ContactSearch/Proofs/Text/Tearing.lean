import ContactSearch.Proofs.Text.Keyword
import ContactSearch.Proofs.Text.Pieces

/-!
# Words at the ends of a removal

When a span is taken out of a text, the words in front of it and behind it stay. One more word can
come out of this: what is left of a word that went on over an end of the span, or two words that have
come together over its place. Where neither happens, no word is made.
-/

namespace ContactSearch.Text

/-- The span of a cut starts or ends inside a word, or words meet when it is taken out. -/
inductive Cut.Tears (cut : Cut) : Prop
  | front (before : cut.before.getLast?.any isWordChar = true)
    (span : cut.found.head?.any isWordChar = true)
  | back (span : cut.found.getLast?.any isWordChar = true)
    (after : cut.after.head?.any isWordChar = true)
  | across (before : cut.before.getLast?.any isWordChar = true)
    (after : cut.after.head?.any isWordChar = true)

/-! ## Texts side by side -/

/-- Two texts side by side have the words of both if no word lies over the place where they meet. -/
theorem words_append_of_outside {s t : List Char}
    (outside : s.getLast?.any isWordChar = false ∨ t.head?.any isWordChar = false) :
    words (s ++ t) = words s ++ words t := by
  rcases outside with left | right
  · rcases List.eq_nil_or_concat s with rfl | ⟨s, c, rfl⟩
    · rw [List.nil_append, words_nil, List.nil_append]
    · have outside : isWordChar c = false := by simpa using left
      rw [List.concat_eq_append, List.append_assoc, List.singleton_append,
        words_append_break outside, words_append_break outside, words_nil, List.append_nil]
  · cases t with
    | nil => rw [List.append_nil, words_nil, List.append_nil]
    | cons c t =>
      have outside : isWordChar c = false := by simpa using right
      rw [words_append_break outside, words_cons_break outside]

theorem words_of_letters {w : List Char} (some : w ≠ []) (letters : ∀ c ∈ w, isWordChar c = true) :
    words w = [w] := by
  have whole := @words_append w [] letters rfl some
  rwa [List.append_nil, words_nil] at whole

/-- The word characters that a text starts with. -/
theorem exists_word_start (s : List Char) : ∃ v back, s = v ++ back ∧
    (∀ c ∈ v, isWordChar c = true) ∧ back.head?.any isWordChar = false := by
  refine ⟨s.takeWhile isWordChar, s.dropWhile isWordChar, ?_, ?_, ?_⟩
  · exact (List.takeWhile_append_dropWhile).symm
  · exact fun c member => List.mem_takeWhile_imp member
  · have stop := List.head?_dropWhile_not isWordChar s
    cases first : (s.dropWhile isWordChar).head? with
    | none => rfl
    | some c => simpa [first] using stop

/-- The word characters that a text ends with. -/
theorem exists_word_end (s : List Char) : ∃ front u, s = front ++ u ∧
    (∀ c ∈ u, isWordChar c = true) ∧ front.getLast?.any isWordChar = false := by
  obtain ⟨v, back, whole, letters, stop⟩ := exists_word_start s.reverse
  refine ⟨back.reverse, v.reverse, ?_, ?_, ?_⟩
  · rw [← List.reverse_append, ← whole, List.reverse_reverse]
  · exact fun c member => letters c (List.mem_reverse.mp member)
  · rwa [List.getLast?_reverse]

/-! ## The place of the span -/

section Sides

variable {cut : Cut} {front u v back : List Char}
  (before : cut.before = front ++ u) (left : front.getLast?.any isWordChar = false)
  (after : cut.after = v ++ back) (right : back.head?.any isWordChar = false)
include before left after right

theorem words_rest_eq : words cut.rest = words front ++ words (u ++ v) ++ words back := by
  have whole : cut.before ++ cut.after = front ++ ((u ++ v) ++ back) := by simp [before, after]
  rw [Cut.rest, words_trim, whole, words_append_of_outside (.inl left),
    words_append_of_outside (.inr right), List.append_assoc]

theorem words_whole_eq : words (cut.before ++ cut.found ++ cut.after) =
    words front ++ words (u ++ cut.found ++ v) ++ words back := by
  have whole : cut.before ++ cut.found ++ cut.after =
      front ++ ((u ++ cut.found ++ v) ++ back) := by simp [before, after]
  rw [whole, words_append_of_outside (.inl left), words_append_of_outside (.inr right),
    ← List.append_assoc]

/-- What tears a word makes one of the word characters on both sides of the span. -/
theorem forms_of_tears (tears : cut.Tears) : u ++ v ≠ [] ∧ cut.Forms (u ++ v) := by
  have noU : u = [] → cut.before.getLast?.any isWordChar = false := by
    rintro rfl
    rwa [before, List.append_nil]
  have noV : v = [] → cut.after.head?.any isWordChar = false := by
    rintro rfl
    rwa [after, List.nil_append]
  refine ⟨?_, front, u, v, back, before, after, ⟨rfl, left, right⟩, ?_, ?_⟩
  · intro none
    obtain ⟨noneU, noneV⟩ := List.append_eq_nil_iff.mp none
    have outside := noU noneU
    have outside' := noV noneV
    cases tears <;> simp_all
  · intro none
    have outside := noU none
    cases tears with
    | back span _ => exact span
    | front inside _ | across inside _ => exact absurd inside (by simp [outside])
  · intro none
    have outside := noV none
    cases tears with
    | front _ span => exact span
    | back _ inside | across _ inside => exact absurd inside (by simp [outside])

end Sides

/-- Where no word is torn, the words beside the span are words of the text. -/
theorem words_rest_of_not_tears {cut : Cut} (whole : ¬ cut.Tears) :
    words cut.rest = words cut.before ++ words cut.after ∧
      words cut.rest ⊆ words (cut.before ++ cut.found ++ cut.after) := by
  have outside : ∀ {x y : Option Char}, ¬ (x.any isWordChar = true ∧ y.any isWordChar = true) →
      x.any isWordChar = false ∨ y.any isWordChar = false := by
    intro x y notBoth
    cases inside : x.any isWordChar with
    | false => exact .inl rfl
    | true => exact .inr (Bool.eq_false_iff.mpr fun other => notBoth ⟨inside, other⟩)
  have front := outside fun both => whole (.front both.1 both.2)
  have back := outside fun both => whole (.back both.1 both.2)
  have across := outside fun both => whole (.across both.1 both.2)
  have rest : words cut.rest = words cut.before ++ words cut.after := by
    rw [Cut.rest, words_trim, words_append_of_outside across]
  refine ⟨rest, ?_⟩
  by_cases none : cut.found = []
  · rw [Cut.rest, words_trim, none, List.append_nil]
    exact List.Subset.refl _
  · rw [rest, words_append_of_outside, words_append_of_outside front, List.append_assoc]
    · exact ((List.sublist_append_right _ _).append_left _).subset
    · rwa [List.getLast?_append_of_ne_nil cut.before none]

/-- A word that is left when a span is taken out was a word of the text, or the span tore it. -/
theorem mem_words_rest {cut : Cut} {w : List Char} (member : w ∈ words cut.rest) :
    w ∈ words (cut.before ++ cut.found ++ cut.after) ∨ cut.Tears ∧ cut.Forms w := by
  by_cases tears : cut.Tears
  · obtain ⟨front, u, before, lettersU, left⟩ := exists_word_end cut.before
    obtain ⟨v, back, after, lettersV, right⟩ := exists_word_start cut.after
    obtain ⟨some, forms⟩ := forms_of_tears before left after right tears
    rw [words_whole_eq before left after right]
    rw [words_rest_eq before left after right, List.mem_append, List.mem_append] at member
    rcases member with (inFront | made) | inBack
    · exact .inl (List.mem_append_left _ (List.mem_append_left _ inFront))
    · have letters : ∀ c ∈ u ++ v, isWordChar c = true :=
        List.forall_mem_append.mpr ⟨lettersU, lettersV⟩
      rw [words_of_letters some letters, List.mem_singleton] at made
      exact .inr ⟨tears, made ▸ forms⟩
    · exact .inl (List.mem_append_right _ inBack)
  · exact .inl ((words_rest_of_not_tears tears).2 member)

/-- Where a word is torn, what the removal makes of it is left. -/
theorem exists_formed_of_tears {cut : Cut} (tears : cut.Tears) :
    ∃ w ∈ words cut.rest, cut.Forms w := by
  obtain ⟨front, u, before, lettersU, left⟩ := exists_word_end cut.before
  obtain ⟨v, back, after, lettersV, right⟩ := exists_word_start cut.after
  obtain ⟨some, forms⟩ := forms_of_tears before left after right tears
  refine ⟨u ++ v, ?_, forms⟩
  rw [words_rest_eq before left after right,
    words_of_letters some (List.forall_mem_append.mpr ⟨lettersU, lettersV⟩)]
  exact List.mem_append_left _ (List.mem_append_right _ (List.mem_singleton_self _))

end ContactSearch.Text
