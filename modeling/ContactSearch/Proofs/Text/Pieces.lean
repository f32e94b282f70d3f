import ContactSearch.Proofs.Text.Words

/-!
# Pieces of a text

The pieces of a text are its words and, each by itself, its other characters that are no blanks. They
are all of a text that is left when blanks do not count: trimming and squeezing keep every piece in
its place, and taking out some of the words keeps all the others.
-/

namespace ContactSearch.Text

/-- The words of a text and its marks, which are the characters that are neither of a word nor
blanks, in order. -/
def pieces : List Char → List (List Char)
  | [] => []
  | c :: s =>
    if isWordChar c then (c :: s.takeWhile isWordChar) :: pieces (s.dropWhile isWordChar)
    else if isBlank c then pieces s
    else [c] :: pieces s
termination_by s => s.length
decreasing_by
  · exact Nat.lt_succ_of_le (List.dropWhile_suffix _).length_le
  · exact Nat.lt_succ_self _
  · exact Nat.lt_succ_self _

@[simp] theorem pieces_nil : pieces [] = [] := by rw [pieces]

/-- A character outside every word is a piece of its own, unless it is a blank. -/
theorem pieces_cons_break {c : Char} (outside : isWordChar c = false) (s : List Char) :
    pieces (c :: s) = (if isBlank c then [] else [[c]]) ++ pieces s := by
  rw [pieces, if_neg (by simp [outside])]
  by_cases blank : isBlank c = true
  · rw [if_pos blank, if_pos blank, List.nil_append]
  · rw [if_neg blank, if_neg blank, List.singleton_append]

theorem pieces_cons_blank {c : Char} (blank : isBlank c = true) (s : List Char) :
    pieces (c :: s) = pieces s := by
  rw [pieces_cons_break (isWordChar_of_isBlank blank), if_pos blank, List.nil_append]

/-- A word at the start of a text that goes on outside of it. -/
theorem pieces_append {w rest : List Char} (some : w ≠ []) (letters : ∀ c ∈ w, isWordChar c = true)
    (outside : rest.head?.any isWordChar = false) : pieces (w ++ rest) = w :: pieces rest := by
  cases w with
  | nil => exact absurd rfl some
  | cons c w =>
    have inside : ∀ d ∈ w, isWordChar d = true := fun d h => letters d (List.mem_cons_of_mem c h)
    rw [List.cons_append, pieces, if_pos (letters c List.mem_cons_self),
      takeWhile_word_append inside outside, dropWhile_word_append inside outside]

/-- A text falls apart in front of a character outside every word. -/
theorem pieces_append_break {c : Char} (outside : isWordChar c = false) (s t : List Char) :
    pieces (s ++ c :: t) = pieces s ++ pieces (c :: t) := by
  induction s using text_induction with
  | nil => rw [List.nil_append, pieces_nil, List.nil_append]
  | skip d s mark ih =>
    rw [List.cons_append, pieces_cons_break mark, pieces_cons_break mark, ih, List.append_assoc]
  | word w rest some letters stop ih =>
    have stop' : (rest ++ c :: t).head?.any isWordChar = false := by
      cases rest with
      | nil => simpa using outside
      | cons d rest => simpa using stop
    rw [List.append_assoc, pieces_append some letters stop', ih, pieces_append some letters stop,
      List.cons_append]

theorem pieces_blanks_append {b : List Char} (blanks : ∀ c ∈ b, isBlank c = true) (s : List Char) :
    pieces (b ++ s) = pieces s := by
  induction b with
  | nil => rfl
  | cons c b ih =>
    obtain ⟨first, rest⟩ := List.forall_mem_cons.mp blanks
    rw [List.cons_append, pieces_cons_blank first, ih rest]

theorem pieces_append_blanks {b : List Char} (blanks : ∀ c ∈ b, isBlank c = true) (s : List Char) :
    pieces (s ++ b) = pieces s := by
  have none : pieces b = [] := by
    have all := pieces_blanks_append blanks []
    rwa [List.append_nil, pieces_nil] at all
  cases b with
  | nil => rw [List.append_nil]
  | cons c b =>
    have outside := isWordChar_of_isBlank (blanks c List.mem_cons_self)
    rw [pieces_append_break outside, none, List.append_nil]

theorem pieces_trim (s : List Char) : pieces (trim s) = pieces s := by
  obtain ⟨a, b, whole, front, back⟩ := trimBy_decompose isBlank s
  calc pieces (trim s) = pieces (a ++ trim s ++ b) := by
        rw [pieces_append_blanks back, pieces_blanks_append front]
    _ = pieces s := by rw [trim, ← whole]

/-- What starts outside every word does so when it is squeezed. -/
theorem head?_squeezeFrom {s : List Char} (outside : s.head?.any isWordChar = false) :
    (squeezeFrom false s).head?.any isWordChar = false := by
  cases s with
  | nil => rfl
  | cons c s =>
    by_cases blank : isBlank c = true
    · rw [squeezeFrom, if_pos blank, if_neg Bool.false_ne_true]
      simpa using isWordChar_of_isBlank isBlank_space
    · rw [squeezeFrom_cons_of_not_isBlank (by simpa using blank)]
      simpa using outside

theorem pieces_squeezeFrom (afterBlank : Bool) (s : List Char) :
    pieces (squeezeFrom afterBlank s) = pieces s := by
  induction s using text_induction generalizing afterBlank with
  | nil => rfl
  | skip c s outside ih =>
    by_cases blank : isBlank c = true
    · cases afterBlank with
      | true => rw [squeezeFrom, if_pos blank, if_pos rfl, ih, pieces_cons_blank blank]
      | false =>
        rw [squeezeFrom, if_pos blank, if_neg Bool.false_ne_true, pieces_cons_blank isBlank_space, ih,
          pieces_cons_blank blank]
    · rw [squeezeFrom_cons_of_not_isBlank (by simpa using blank), pieces_cons_break outside, ih,
        pieces_cons_break outside]
  | word w rest some letters stop ih =>
    have solid : ∀ c ∈ w, isBlank c = false := fun c h => not_isBlank_of_isWordChar (letters c h)
    rw [squeezeFrom_append_of_not_isBlank some solid,
      pieces_append some letters (head?_squeezeFrom stop), pieces_append some letters stop, ih]

theorem pieces_squeeze (s : List Char) : pieces (squeeze s) = pieces s :=
  pieces_squeezeFrom false s

/-- Taking out words leaves all the other pieces. Nothing but words may be taken out. -/
theorem pieces_withoutWords {drop : List Char → Bool}
    (wordsOnly : ∀ c, isWordChar c = false → drop [c] = false) (s : List Char) :
    pieces (withoutWords drop s) = (pieces s).filter fun w => !drop w := by
  induction s using text_induction with
  | nil => rw [withoutWords_nil, pieces_nil, List.filter_nil]
  | skip c s outside ih =>
    rw [withoutWords_cons_break drop outside, pieces_cons_break outside, pieces_cons_break outside,
      List.filter_append, ih]
    by_cases blank : isBlank c = true
    · rw [if_pos blank, List.filter_nil]
    · rw [if_neg blank, List.filter_cons_of_pos (by simp [wordsOnly c outside]), List.filter_nil]
  | word w rest some letters stop ih =>
    rw [withoutWords_append letters stop drop some, pieces_append some letters stop]
    by_cases gone : drop w = true
    · rw [if_pos gone, List.nil_append, ih, List.filter_cons_of_neg (by simp [gone])]
    · rw [if_neg gone, pieces_append some letters (head?_withoutWords drop stop), ih,
        List.filter_cons_of_pos (by simp [gone])]

/-! ## Words among the pieces -/

/-- The words of a text are those of its pieces that start with a word character. -/
theorem words_eq_filter (s : List Char) :
    words s = (pieces s).filter fun w => w.head?.any isWordChar := by
  induction s using text_induction with
  | nil => rw [words_nil, pieces_nil, List.filter_nil]
  | skip c s outside ih =>
    rw [words_cons_break outside, pieces_cons_break outside, List.filter_append, ← ih]
    by_cases blank : isBlank c = true
    · rw [if_pos blank, List.filter_nil, List.nil_append]
    · rw [if_neg blank, List.filter_cons_of_neg (by simp [outside]), List.filter_nil, List.nil_append]
  | word w rest some letters stop ih =>
    have first : w.head?.any isWordChar = true := by
      cases w with
      | nil => exact absurd rfl some
      | cons c w => simpa using letters c List.mem_cons_self
    rw [words_append letters stop some, pieces_append some letters stop,
      List.filter_cons_of_pos (by exact first), ih]

theorem words_trim (s : List Char) : words (trim s) = words s := by
  rw [words_eq_filter, pieces_trim, ← words_eq_filter]

theorem words_squeeze (s : List Char) : words (squeeze s) = words s := by
  rw [words_eq_filter, pieces_squeeze, ← words_eq_filter]

end ContactSearch.Text
