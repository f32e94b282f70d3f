import ContactSearch.Proofs.Query.Fillers

/-!
# What stripping the fillers leaves

Stripping takes the fillers out of a text and nothing else: every other word and every mark stays in
its place, no word arises, and there is nothing left to strip. Only the form of the rest matters
besides: a single character, or no character of a word, counts as nothing.
-/

namespace ContactSearch.Query

open Text

/-- The text without its fillers, every run of blanks a single space and none around it. -/
def withoutFillers (s : List Char) : List Char :=
  trim (squeeze (withoutWords isFiller s))

/-- What is left of a text when its fillers are stripped. -/
structure IsStripped (s left : List Char) : Prop where
  /-- A single character, or no character of a word, counts as nothing. -/
  left_eq : left = if (withoutFillers s).length ≤ 1 ∨ (withoutFillers s).any isWordChar = false
    then [] else withoutFillers s
  /-- Every other word and every mark stays, in order. -/
  pieces_eq : pieces (withoutFillers s) = (pieces s).filter fun w => !isFiller w
  /-- The words are words of the text, and no filler is among them. -/
  words_eq : words (withoutFillers s) = (words s).filter fun w => !isFiller w
  noFiller : ∀ w ∈ words (withoutFillers s), isFiller w = false
  stable : stripFillers left = left

theorem stripFillers_eq (s : List Char) : stripFillers s =
    if (withoutFillers s).length ≤ 1 ∨ (withoutFillers s).any isWordChar = false
    then [] else withoutFillers s := by
  unfold stripFillers
  rw [erase_fillerPattern]
  simp only [Bool.or_eq_true, decide_eq_true_eq, Bool.not_eq_true']
  rfl

/-- A mark by itself is no filler. -/
theorem isFiller_mark (c : Char) (outside : isWordChar c = false) : isFiller [c] = false := by
  by_contra filler
  have letter := (letters_of_isFiller (by simpa using filler)).2 c List.mem_cons_self
  rw [outside] at letter
  cases letter

theorem pieces_withoutFillers (s : List Char) :
    pieces (withoutFillers s) = (pieces s).filter fun w => !isFiller w := by
  rw [withoutFillers, pieces_trim, pieces_squeeze, pieces_withoutWords isFiller_mark]

theorem words_withoutFillers (s : List Char) :
    words (withoutFillers s) = (words s).filter fun w => !isFiller w := by
  rw [withoutFillers, ← erase_fillerPattern, words_squeezed_fillers]

theorem not_isFiller_of_mem_withoutFillers (s : List Char) :
    ∀ w ∈ words (withoutFillers s), isFiller w = false := by
  intro w member
  rw [words_withoutFillers] at member
  simpa using (List.mem_filter.mp member).2

/-- A text without fillers that is squeezed and trimmed is left as it is. -/
theorem withoutFillers_withoutFillers (s : List Char) :
    withoutFillers (withoutFillers s) = withoutFillers s := by
  have squeezed : IsSqueezed (withoutFillers s) :=
    (isSqueezed_squeeze _).within (infix_trimBy isBlank _)
  have trimmed : IsTrimmed isBlank (withoutFillers s) := isTrimmed_trimBy isBlank _
  have kept := withoutWords_eq_self (not_isFiller_of_mem_withoutFillers s)
  calc withoutFillers (withoutFillers s)
      = trim (squeeze (withoutFillers s)) := by rw [withoutFillers, kept]
    _ = withoutFillers s := by rw [squeeze_eq_self squeezed, trim, trimBy_eq_self trimmed]

/-- Stripping a second time changes nothing. -/
theorem stripFillers_stripFillers (s : List Char) : stripFillers (stripFillers s) = stripFillers s := by
  have unfolded := stripFillers_eq s
  by_cases dropped : (withoutFillers s).length ≤ 1 ∨ (withoutFillers s).any isWordChar = false
  · rw [if_pos dropped] at unfolded
    rw [unfolded]
    rfl
  · rw [if_neg dropped] at unfolded
    rw [unfolded, stripFillers_eq, withoutFillers_withoutFillers, if_neg dropped]

/-- But for blanks, what is left is some of what was there, in order. -/
theorem solids_stripFillers (s : List Char) :
    ((stripFillers s).filter fun c => !isBlank c).Sublist (s.filter fun c => !isBlank c) := by
  have kept : ((withoutFillers s).filter fun c => !isBlank c).Sublist
      (s.filter fun c => !isBlank c) := by
    have trimmed := (infix_trimBy isBlank (squeeze (withoutWords isFiller s))).sublist.filter
      (fun c => !isBlank c)
    rw [filter_squeeze] at trimmed
    exact trimmed.trans ((sublist_withoutWords isFiller s).filter _)
  rw [stripFillers_eq]
  split
  · exact List.nil_sublist _
  · exact kept

theorem stripFillers_isStripped (s : List Char) : IsStripped s (stripFillers s) where
  left_eq := stripFillers_eq s
  pieces_eq := pieces_withoutFillers s
  words_eq := words_withoutFillers s
  noFiller := not_isFiller_of_mem_withoutFillers s
  stable := stripFillers_stripFillers s

end ContactSearch.Query
