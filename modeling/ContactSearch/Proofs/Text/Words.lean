import ContactSearch.Proofs.Text.Blanks
import ContactSearch.Text.Word
import Mathlib.Data.List.Basic

/-!
# Words of a text

The words of a text are its maximal runs of word characters. A character outside every word cuts
the words of a text in two, and nearly all that is said about words follows from this: taking out
some of the words leaves exactly the others, since what stands between two words keeps them apart.
-/

namespace ContactSearch.Text

/-- The maximal runs of word characters, in order. -/
def words : List Char → List (List Char)
  | [] => []
  | c :: s =>
    if isWordChar c then (c :: s.takeWhile isWordChar) :: words (s.dropWhile isWordChar)
    else words s
termination_by s => s.length
decreasing_by
  · exact Nat.lt_succ_of_le (List.dropWhile_suffix _).length_le
  · exact Nat.lt_succ_self _

/-- The text that is left when the words of some kind are taken out; all else stays. -/
def withoutWords (drop : List Char → Bool) : List Char → List Char
  | [] => []
  | c :: s =>
    if isWordChar c then
      (if drop (c :: s.takeWhile isWordChar) then [] else c :: s.takeWhile isWordChar) ++
        withoutWords drop (s.dropWhile isWordChar)
    else c :: withoutWords drop s
termination_by s => s.length
decreasing_by
  · exact Nat.lt_succ_of_le (List.dropWhile_suffix _).length_le
  · exact Nat.lt_succ_self _

@[simp] theorem words_nil : words [] = [] := by rw [words]

@[simp] theorem withoutWords_nil (drop : List Char → Bool) : withoutWords drop [] = [] := by
  rw [withoutWords]

theorem words_cons_break {c : Char} (outside : isWordChar c = false) (s : List Char) :
    words (c :: s) = words s := by
  rw [words, if_neg (by simp [outside])]

theorem withoutWords_cons_break (drop : List Char → Bool) {c : Char}
    (outside : isWordChar c = false) (s : List Char) :
    withoutWords drop (c :: s) = c :: withoutWords drop s := by
  rw [withoutWords, if_neg (by simp [outside])]

section Front

variable {w rest : List Char} (letters : ∀ c ∈ w, isWordChar c = true)
  (outside : rest.head?.any isWordChar = false)
include letters outside

theorem takeWhile_word_append : (w ++ rest).takeWhile isWordChar = w := by
  rw [List.takeWhile_append_of_pos letters]
  cases rest with
  | nil => simp
  | cons c rest => simp_all

theorem dropWhile_word_append : (w ++ rest).dropWhile isWordChar = rest := by
  rw [List.dropWhile_append_of_pos letters]
  cases rest with
  | nil => simp
  | cons c rest => simp_all

/-- A word at the start of a text that goes on outside of it. -/
theorem words_append (some : w ≠ []) : words (w ++ rest) = w :: words rest := by
  cases w with
  | nil => exact absurd rfl some
  | cons c w =>
    have inside : ∀ d ∈ w, isWordChar d = true := fun d h => letters d (List.mem_cons_of_mem c h)
    rw [List.cons_append, words, if_pos (letters c List.mem_cons_self),
      takeWhile_word_append inside outside, dropWhile_word_append inside outside]

theorem withoutWords_append (drop : List Char → Bool) (some : w ≠ []) :
    withoutWords drop (w ++ rest) = (if drop w then [] else w) ++ withoutWords drop rest := by
  cases w with
  | nil => exact absurd rfl some
  | cons c w =>
    have inside : ∀ d ∈ w, isWordChar d = true := fun d h => letters d (List.mem_cons_of_mem c h)
    rw [List.cons_append, withoutWords, if_pos (letters c List.mem_cons_self),
      takeWhile_word_append inside outside, dropWhile_word_append inside outside]

end Front

/-- A text is empty, starts outside every word, or starts with a word and goes on outside of it. -/
theorem text_induction {P : List Char → Prop} (nil : P [])
    (skip : ∀ c s, isWordChar c = false → P s → P (c :: s))
    (word : ∀ w rest, w ≠ [] → (∀ c ∈ w, isWordChar c = true) →
      rest.head?.any isWordChar = false → P rest → P (w ++ rest)) (s : List Char) : P s := by
  induction s using words.induct with
  | case1 => exact nil
  | case2 c s letter ih =>
    have split : c :: s = (c :: s.takeWhile isWordChar) ++ s.dropWhile isWordChar := by
      rw [List.cons_append, List.takeWhile_append_dropWhile]
    rw [split]
    refine word _ _ (List.cons_ne_nil _ _) ?_ ?_ ih
    · intro d member
      rcases List.mem_cons.mp member with rfl | member
      · exact letter
      · exact List.mem_takeWhile_imp member
    · cases stop : s.dropWhile isWordChar with
      | nil => rfl
      | cons d rest =>
        have := List.head?_dropWhile_not isWordChar s
        rw [stop] at this
        simpa using this
  | case3 c s outside ih => exact skip c s (Bool.eq_false_iff.mpr outside) ih

/-- A character outside every word cuts the words of a text in two. -/
theorem words_append_break {c : Char} (outside : isWordChar c = false) (s t : List Char) :
    words (s ++ c :: t) = words s ++ words t := by
  induction s using text_induction with
  | nil => rw [List.nil_append, words_cons_break outside, words_nil, List.nil_append]
  | skip d s break_ ih => rw [List.cons_append, words_cons_break break_, words_cons_break break_, ih]
  | word w rest some letters stop ih =>
    have goesOn : (rest ++ c :: t).head?.any isWordChar = false := by
      cases rest with
      | nil => simpa using outside
      | cons d rest => simpa using stop
    rw [List.append_assoc, words_append letters goesOn some, words_append letters stop some, ih,
      List.cons_append]

theorem words_breaks_append {s : List Char} (breaks : ∀ c ∈ s, isWordChar c = false)
    (t : List Char) : words (s ++ t) = words t := by
  induction s with
  | nil => rfl
  | cons c s ih =>
    rw [List.cons_append, words_cons_break (breaks c List.mem_cons_self)]
    exact ih fun d h => breaks d (List.mem_cons_of_mem c h)

/-- The words of a text are the runs of word characters that cannot be made longer. -/
theorem mem_words_iff {w s : List Char} :
    w ∈ words s ↔ w ≠ [] ∧ (∀ c ∈ w, isWordChar c = true) ∧ ∃ a b, s = a ++ w ++ b ∧
      a.getLast?.any isWordChar = false ∧ b.head?.any isWordChar = false := by
  constructor
  · intro member
    induction s using text_induction with
    | nil => simp at member
    | skip c s outside ih =>
      rw [words_cons_break outside] at member
      obtain ⟨some, letters, a, b, rfl, left, right⟩ := ih member
      refine ⟨some, letters, c :: a, b, rfl, ?_, right⟩
      cases a with
      | nil => simpa using outside
      | cons d a => simpa using left
    | word v rest someV lettersV stop ih =>
      rw [words_append lettersV stop someV] at member
      rcases List.mem_cons.mp member with rfl | member
      · exact ⟨someV, lettersV, [], rest, rfl, rfl, stop⟩
      · obtain ⟨some, letters, a, b, rfl, left, right⟩ := ih member
        refine ⟨some, letters, v ++ a, b, by simp, ?_, right⟩
        cases a with
        | nil =>
          cases w with
          | nil => exact absurd rfl some
          | cons c w => simp [letters c List.mem_cons_self] at stop
        | cons d a => rwa [List.getLast?_append_of_ne_nil v (List.cons_ne_nil d a)]
  · rintro ⟨some, letters, a, b, rfl, left, right⟩
    rcases List.eq_nil_or_concat a with rfl | ⟨a, c, rfl⟩
    · rw [List.nil_append, words_append letters right some]
      exact List.mem_cons_self
    · have outside : isWordChar c = false := by simpa using left
      rw [List.concat_eq_append, List.append_assoc, List.append_assoc, List.singleton_append,
        words_append_break outside, words_append letters right some]
      exact List.mem_append_right _ List.mem_cons_self

/-- What starts outside every word does so without some of its words. -/
theorem head?_withoutWords (drop : List Char → Bool) {s : List Char}
    (outside : s.head?.any isWordChar = false) :
    (withoutWords drop s).head?.any isWordChar = false := by
  cases s with
  | nil => simp
  | cons c s =>
    have break_ : isWordChar c = false := by simpa using outside
    rw [withoutWords_cons_break drop break_]
    simpa using break_

/-- Where no word is to be taken out the text stays as it is. -/
theorem withoutWords_eq_self {drop : List Char → Bool} {s : List Char}
    (kept : ∀ w ∈ words s, drop w = false) : withoutWords drop s = s := by
  induction s using text_induction with
  | nil => exact withoutWords_nil drop
  | skip c s outside ih =>
    rw [words_cons_break outside] at kept
    rw [withoutWords_cons_break drop outside, ih kept]
  | word w rest some letters stop ih =>
    rw [words_append letters stop some] at kept
    obtain ⟨first, others⟩ := List.forall_mem_cons.mp kept
    rw [withoutWords_append letters stop drop some, if_neg (by simp [first]), ih others]

/-- Taking out words adds nothing and changes no order. -/
theorem sublist_withoutWords (drop : List Char → Bool) (s : List Char) :
    (withoutWords drop s).Sublist s := by
  induction s using text_induction with
  | nil => rw [withoutWords_nil]
  | skip c s outside ih =>
    rw [withoutWords_cons_break drop outside]
    exact ih.cons_cons c
  | word w rest some letters stop ih =>
    rw [withoutWords_append letters stop drop some]
    by_cases gone : drop w = true
    · rw [if_pos gone, List.nil_append]
      exact ih.trans (List.sublist_append_right w rest)
    · rw [if_neg gone]
      exact ih.append_left w

/-- Taking out words leaves the other ones, and joins no two of them. -/
theorem words_withoutWords (drop : List Char → Bool) (s : List Char) :
    words (withoutWords drop s) = (words s).filter fun w => !drop w := by
  induction s using text_induction with
  | nil => rw [withoutWords_nil, words_nil, List.filter_nil]
  | skip c s outside ih =>
    rw [withoutWords_cons_break drop outside, words_cons_break outside, words_cons_break outside, ih]
  | word w rest some letters stop ih =>
    have goesOn := head?_withoutWords drop stop
    rw [withoutWords_append letters stop drop some, words_append letters stop some]
    by_cases gone : drop w = true
    · rw [if_pos gone, List.nil_append, ih, List.filter_cons_of_neg (by simp [gone])]
    · rw [if_neg gone, words_append letters goesOn some, ih,
        List.filter_cons_of_pos (by simp [gone])]

/-! ## Blanks -/

theorem isWordChar_of_isBlank {c : Char} (blank : isBlank c = true) : isWordChar c = false :=
  forall_isBlank (P := fun c => isWordChar c = false) (by decide +kernel) blank

theorem any_isWordChar_of_isBlank {c : Option Char} (blank : ∀ d ∈ c, isBlank d = true) :
    c.any isWordChar = false := by
  rw [Option.any_eq_false]
  intro d there
  simp [isWordChar_of_isBlank (blank d there)]

theorem not_isBlank_of_isWordChar {c : Char} (letter : isWordChar c = true) : isBlank c = false := by
  by_contra blank
  rw [isWordChar_of_isBlank (by simpa using blank)] at letter
  cases letter

end ContactSearch.Text
