import ContactSearch.Proofs.Text.CaseFold
import ContactSearch.Proofs.Text.Occurrence
import ContactSearch.Proofs.Text.Pieces
import ContactSearch.Query.Extraction

/-!
# Filler words

Erasing the pattern of filler words takes out exactly the words that equal a filler ignoring case.
The pattern needs a word edge on either side and all its literals are word characters, so it can
only cover a whole word; and since what stands between two words stays, no new filler arises.
-/

namespace ContactSearch.Query

open Text

/-- A word equals one of the fillers when case is ignored. -/
def isFiller (w : List Char) : Bool :=
  fillers.any fun f => w.map fold == f.toList.map fold

private theorem fillers_letters :
    fillers.all (fun f => !f.toList.isEmpty && f.toList.all fun l => (fold l).isAlpha) = true := by
  decide

theorem isFiller_iff {w : List Char} :
    isFiller w = true ↔ ∃ f ∈ fillers, w.map fold = f.toList.map fold := by
  simp [isFiller]

/-- Whatever equals a filler is a text of word characters. -/
theorem letters_of_isFiller {w : List Char} (filler : isFiller w = true) :
    w ≠ [] ∧ ∀ c ∈ w, isWordChar c = true := by
  obtain ⟨f, listed, same⟩ := isFiller_iff.mp filler
  have letters := List.all_eq_true.mp fillers_letters f listed
  rw [Bool.and_eq_true, Bool.not_eq_true', List.isEmpty_eq_false_iff, List.all_eq_true] at letters
  constructor
  · rintro rfl
    exact letters.1 (List.map_eq_nil_iff.mp same.symm)
  · intro c member
    have folded : fold c ∈ f.toList.map fold := same ▸ List.mem_map_of_mem member
    obtain ⟨l, inFiller, equal⟩ := List.mem_map.mp folded
    exact isWordChar_of_fold_isAlpha (equal ▸ letters.2 l inFiller)

section Edges

variable {w : List Char} (some : w ≠ []) (letters : ∀ c ∈ w, isWordChar c = true)
include some letters

/-- There is an edge in front of a word if no other word ends there. -/
theorem isBoundary_front_iff (left : Option Char) (rest : List Char) :
    isBoundary left (w ++ rest).head? = true ↔ left.any isWordChar = false := by
  cases w with
  | nil => exact absurd rfl some
  | cons c w => simp [isBoundary, letters c List.mem_cons_self]

/-- There is an edge behind a word if no other word starts there. -/
theorem isBoundary_back_iff (before : List Char) (right : Option Char) :
    isBoundary (w.reverse ++ before).head? right = true ↔ right.any isWordChar = false := by
  cases back : w.reverse with
  | nil => exact absurd (List.reverse_eq_nil_iff.mp back) some
  | cons c r =>
    have letter := letters c (List.mem_reverse.mp (back ▸ List.mem_cons_self))
    simp [isBoundary, letter]

end Edges

/-- The pattern of fillers occurs where a filler stands between characters outside every word. -/
theorem mem_ends_fillerPattern {before after : List Char} {e : Text.Place} :
    e ∈ fillerPattern.ends ⟨before, after⟩ ↔ ∃ w rest, after = w ++ rest ∧ isFiller w = true ∧
      before.head?.any isWordChar = false ∧ rest.head?.any isWordChar = false ∧
      e = ⟨w.reverse ++ before, rest⟩ := by
  simp only [fillerPattern, Pattern.mem_ends_seq, Pattern.mem_ends_edge, Pattern.mem_ends_anyOf]
  constructor
  · rintro ⟨p, ⟨front, rfl⟩, q, ⟨pattern, listed, found⟩, back, rfl⟩
    obtain ⟨f, entry, rfl⟩ := List.mem_map.mp listed
    obtain ⟨w, rest, rfl, same, rfl⟩ := Pattern.mem_ends_text.mp found
    have filler : isFiller w = true := isFiller_iff.mpr ⟨f, entry, same⟩
    obtain ⟨some, letters⟩ := letters_of_isFiller filler
    exact ⟨w, rest, rfl, filler, (isBoundary_front_iff some letters _ _).mp front,
      (isBoundary_back_iff some letters _ _).mp back, rfl⟩
  · rintro ⟨w, rest, rfl, filler, left, right, rfl⟩
    obtain ⟨some, letters⟩ := letters_of_isFiller filler
    obtain ⟨f, listed, same⟩ := isFiller_iff.mp filler
    refine ⟨_, ⟨(isBoundary_front_iff some letters _ _).mpr left, rfl⟩, ⟨w.reverse ++ before, rest⟩,
      ⟨.text f, List.mem_map_of_mem listed, ?_⟩, (isBoundary_back_iff some letters _ _).mpr right,
      rfl⟩
    exact Pattern.mem_ends_text.mpr ⟨w, rest, rfl, same, rfl⟩

/-- Only one word stands at the start of a text. -/
theorem word_front_unique {v w rest rest' : List Char} (whole : v ++ rest = w ++ rest')
    (lettersV : ∀ c ∈ v, isWordChar c = true) (lettersW : ∀ c ∈ w, isWordChar c = true)
    (stop : rest.head?.any isWordChar = false) (stop' : rest'.head?.any isWordChar = false) :
    v = w ∧ rest = rest' := by
  have front := takeWhile_word_append lettersV stop
  have back := dropWhile_word_append lettersV stop
  rw [whole, takeWhile_word_append lettersW stop'] at front
  rw [whole, dropWhile_word_append lettersW stop'] at back
  exact ⟨front.symm, back.symm⟩

theorem eraseFrom_inside {before : List Char} {w : List Char}
    (inside : before.head?.any isWordChar = true) (letters : ∀ c ∈ w, isWordChar c = true)
    (rest : List Char) : fillerPattern.eraseFrom 0 before (w ++ rest) =
      w ++ fillerPattern.eraseFrom 0 (w.reverse ++ before) rest := by
  induction w generalizing before with
  | nil => rfl
  | cons c w ih =>
    have none : fillerPattern.ends ⟨before, c :: (w ++ rest)⟩ = [] := by
      rw [List.eq_nil_iff_forall_not_mem]
      intro e found
      obtain ⟨_, _, _, _, outside, _⟩ := mem_ends_fillerPattern.mp found
      rw [inside] at outside
      cases outside
    have next : (c :: before).head?.any isWordChar = true := by
      simpa using letters c List.mem_cons_self
    rw [List.cons_append, Pattern.eraseFrom_of_no_end none,
      ih next fun d h => letters d (List.mem_cons_of_mem c h)]
    simp

theorem eraseFrom_word {before w rest : List Char} (some : w ≠ [])
    (letters : ∀ c ∈ w, isWordChar c = true) (left : before.head?.any isWordChar = false)
    (right : rest.head?.any isWordChar = false) :
    fillerPattern.eraseFrom 0 before (w ++ rest) =
      (if isFiller w then [] else w) ++ fillerPattern.eraseFrom 0 (w.reverse ++ before) rest := by
  have covers : ∀ e ∈ fillerPattern.ends ⟨before, w ++ rest⟩, isFiller w = true ∧ e.after = rest := by
    intro e found
    obtain ⟨v, rest', whole, filler, _, stop, rfl⟩ := mem_ends_fillerPattern.mp found
    obtain ⟨rfl, rfl⟩ := word_front_unique whole letters (letters_of_isFiller filler).2 right stop
    exact ⟨filler, rfl⟩
  by_cases filler : isFiller w = true
  · have found : ⟨w.reverse ++ before, rest⟩ ∈ fillerPattern.ends ⟨before, w ++ rest⟩ :=
      mem_ends_fillerPattern.mpr ⟨w, rest, rfl, filler, left, right, rfl⟩
    rw [if_pos filler, List.nil_append]
    exact Pattern.eraseFrom_of_ends some (List.ne_nil_of_mem found) fun e h => (covers e h).2
  · have none : fillerPattern.ends ⟨before, w ++ rest⟩ = [] := by
      rw [List.eq_nil_iff_forall_not_mem]
      exact fun e found => filler (covers e found).1
    rw [if_neg filler]
    cases w with
    | nil => exact absurd rfl some
    | cons c w =>
      have next : (c :: before).head?.any isWordChar = true := by
        simpa using letters c List.mem_cons_self
      rw [List.cons_append] at none ⊢
      rw [Pattern.eraseFrom_of_no_end none,
        eraseFrom_inside next fun d h => letters d (List.mem_cons_of_mem c h)]
      simp

/-- A word starts at a place only if none ends there; the induction keeps to such places. -/
theorem eraseFrom_fillerPattern (before s : List Char)
    (apart : before.head?.any isWordChar = false ∨ s.head?.any isWordChar = false) :
    fillerPattern.eraseFrom 0 before s = withoutWords isFiller s := by
  induction s using text_induction generalizing before with
  | nil => rw [withoutWords_nil]; rfl
  | skip c s outside ih =>
    have none : fillerPattern.ends ⟨before, c :: s⟩ = [] := by
      rw [List.eq_nil_iff_forall_not_mem]
      intro e found
      obtain ⟨w, rest, whole, filler, -⟩ := mem_ends_fillerPattern.mp found
      obtain ⟨some, letters⟩ := letters_of_isFiller filler
      cases w with
      | nil => exact some rfl
      | cons d w =>
        rw [(List.cons.inj whole).1, letters d List.mem_cons_self] at outside
        cases outside
    rw [Pattern.eraseFrom_of_no_end none, withoutWords_cons_break _ outside]
    rw [ih (c :: before) (.inl (by simpa using outside))]
  | word w rest some letters stop ih =>
    have left : before.head?.any isWordChar = false := by
      rcases apart with left | starts
      · exact left
      · cases w with
        | nil => exact absurd rfl some
        | cons c w => simp [letters c List.mem_cons_self] at starts
    rw [eraseFrom_word some letters left stop, withoutWords_append letters stop _ some,
      ih _ (.inr stop)]

theorem erase_fillerPattern (s : List Char) :
    fillerPattern.erase s = withoutWords isFiller s :=
  eraseFrom_fillerPattern [] s (.inl rfl)

/-- The words that are left are the words that are no fillers. -/
theorem words_squeezed_fillers (s : List Char) :
    words (trim (squeeze (fillerPattern.erase s))) = (words s).filter fun w => !isFiller w := by
  rw [words_trim, words_squeeze, erase_fillerPattern, words_withoutWords]

/-! ## The form of free text -/

/-- How free text looks: at least two characters, one of them of a word, no blanks but single
spaces between other characters, and no filler but inside a longer word. -/
structure IsFreeText (s : List Char) : Prop where
  length : 2 ≤ s.length
  wordChar : ∃ c ∈ s, isWordChar c = true
  trimmed : IsTrimmed isBlank s
  squeezed : IsSqueezed s
  noFiller : ∀ a w b, s = a ++ w ++ b → isFiller w = true →
    a.getLast?.any isWordChar = true ∨ b.head?.any isWordChar = true

theorem stripFillers_cases (s : List Char) :
    stripFillers s = [] ∨ IsFreeText (stripFillers s) := by
  unfold stripFillers
  dsimp only
  split
  · exact .inl rfl
  · rename_i kept
    simp only [Bool.or_eq_true, decide_eq_true_eq, Bool.not_eq_true', not_or,
      Bool.not_eq_false, List.any_eq_true] at kept
    refine .inr ⟨by omega, kept.2, isTrimmed_trimBy _ _,
      (isSqueezed_squeeze _).within (infix_trimBy _ _), ?_⟩
    intro a w b whole filler
    by_contra apart
    simp only [not_or, Bool.not_eq_true] at apart
    obtain ⟨some, letters⟩ := letters_of_isFiller filler
    have member := mem_words_iff.mpr ⟨some, letters, a, b, whole, apart⟩
    rw [words_squeezed_fillers] at member
    simp [filler] at member

end ContactSearch.Query
