import ContactSearch.Proofs.Text.Words

/-!
# Words that outlast a removal

A span that starts and ends inside words is taken out of a text. A word of the text that does not
contain any word of the span lies clear of it, and then it is still a word: what stands beside it is
no word character, so it is not part of the span.
-/

namespace ContactSearch.Text

theorem any_isWordChar_map {f : Char → Char} {o : Option Char}
    (same : ∀ c ∈ o, isWordChar (f c) = isWordChar c) :
    (o.map f).any isWordChar = o.any isWordChar := by
  cases o with
  | none => rfl
  | some c => exact same c rfl

/-- A map of characters that tells word characters from others as before maps word by word. -/
theorem words_map {f : Char → Char} {s : List Char}
    (same : ∀ c ∈ s, isWordChar (f c) = isWordChar c) :
    words (s.map f) = (words s).map (List.map f) := by
  induction s using text_induction with
  | nil => simp
  | skip c s outside ih =>
    obtain ⟨here, rest⟩ := List.forall_mem_cons.mp same
    rw [List.map_cons, words_cons_break (here.trans outside), words_cons_break outside, ih rest]
  | word w rest some letters stop ih =>
    obtain ⟨inWord, inRest⟩ := List.forall_mem_append.mp same
    have letters' : ∀ c ∈ w.map f, isWordChar c = true := by
      intro c member
      obtain ⟨d, inside, rfl⟩ := List.mem_map.mp member
      rw [inWord d inside, letters d inside]
    have stop' : (rest.map f).head?.any isWordChar = false := by
      cases rest with
      | nil => rfl
      | cons c rest => simpa [inRest c List.mem_cons_self] using stop
    rw [List.map_append, words_append letters' stop' (by simpa using some),
      words_append letters stop some, ih inRest, List.map_cons]

section Removal

variable {a w b v : List Char}

/-- Word characters that lie over the end of a span, or end in it, cover one of its words. -/
theorem exists_word_of_overlap {front q : List Char} (someV : v ≠ []) (someW : w ≠ [])
    (letters : ∀ c ∈ v, isWordChar c = true) (left : front.getLast?.any isWordChar = false)
    (right : q.head?.any isWordChar = false) (whole : v ++ q = w ++ b) :
    ∃ u ∈ words (front ++ w), u <+: v := by
  rcases List.append_eq_append_iff.mp whole with ⟨rest, rfl, after⟩ | ⟨rest, rfl, after⟩
  · have stop : rest.head?.any isWordChar = false := by
      cases rest with
      | nil => rfl
      | cons c rest => simpa [after] using right
    refine ⟨v, mem_words_iff.mpr ⟨someV, letters, front, rest, ?_, left, stop⟩, List.prefix_refl v⟩
    rw [List.append_assoc]
  · have inside : ∀ c ∈ w, isWordChar c = true := fun c h => letters c (List.mem_append_left _ h)
    refine ⟨w, mem_words_iff.mpr ⟨someW, inside, front, [], ?_, left, rfl⟩, List.prefix_append w rest⟩
    rw [List.append_nil]

variable (front : w.head?.any isWordChar = true) (back : w.getLast?.any isWordChar = true)
include front back

/-- A word of a text outlasts the removal of a span, unless it contains a word of that span. -/
theorem mem_words_of_removal (member : v ∈ words (a ++ w ++ b)) :
    v ∈ words (a ++ b) ∨ ∃ u ∈ words w, u <:+: v := by
  have some : w ≠ [] := by
    rintro rfl
    cases front
  obtain ⟨someV, letters, p, q, whole, left, right⟩ := mem_words_iff.mp member
  rw [List.append_assoc, List.append_assoc] at whole
  rcases List.append_eq_append_iff.mp whole with ⟨c, rfl, rest⟩ | ⟨c, rfl, rest⟩
  · rcases List.append_eq_append_iff.mp rest with ⟨d, rfl, rfl⟩ | ⟨d, rfl, across⟩
    · -- The word lies behind the span.
      refine .inl (mem_words_iff.mpr ⟨someV, letters, a ++ d, q, by simp, ?_, right⟩)
      cases d with
      | nil =>
        rw [List.append_nil, List.getLast?_append_of_ne_nil a some, back] at left
        cases left
      | cons x d =>
        rw [List.getLast?_append_of_ne_nil a (by simp),
          List.getLast?_append_of_ne_nil w (by simp)] at left
        rwa [List.getLast?_append_of_ne_nil a (by simp)]
    · -- The word starts inside the span, or right behind it.
      by_cases behind : d = []
      · subst behind
        rw [List.append_nil] at back some
        rw [List.getLast?_append_of_ne_nil a some, back] at left
        cases left
      · have left' : c.getLast?.any isWordChar = false := by
          by_cases none : c = []
          · rw [none]
            rfl
          · rwa [List.getLast?_append_of_ne_nil a none] at left
        obtain ⟨u, inSpan, covered⟩ := exists_word_of_overlap someV behind letters left' right across
        exact .inr ⟨u, inSpan, covered.isInfix⟩
  · have touches : (w ++ b).head?.any isWordChar = true := by
      rwa [List.head?_append_of_ne_nil w some]
    rcases List.append_eq_append_iff.mp rest with ⟨d, rfl, rfl⟩ | ⟨d, rfl, across⟩
    · -- The word lies in front of the span.
      cases d with
      | nil =>
        rw [List.nil_append, touches] at right
        cases right
      | cons x d =>
        exact .inl (mem_words_iff.mpr ⟨someV, letters, p, x :: d ++ b, by simp, left, right⟩)
    · -- The word starts in front of the span and ends behind its start, or right at it.
      by_cases clear : d = []
      · subst clear
        rw [List.nil_append] at across
        rw [← across, touches] at right
        cases right
      · have letters' : ∀ x ∈ d, isWordChar x = true := fun x h =>
          letters x (List.mem_append_right c h)
        obtain ⟨u, inSpan, covered⟩ : ∃ u ∈ words ([] ++ w), u <+: d :=
          exists_word_of_overlap clear some letters' rfl right across.symm
        exact .inr ⟨u, inSpan, covered.isInfix.trans (List.suffix_append c d).isInfix⟩

end Removal

end ContactSearch.Text
