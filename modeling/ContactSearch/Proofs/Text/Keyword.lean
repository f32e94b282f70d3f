import ContactSearch.Proofs.Text.CaseFold
import ContactSearch.Proofs.Text.Span
import ContactSearch.Proofs.Text.Words
import ContactSearch.Text.Find

/-!
# Keywords that stand alone

A keyword, of one word or several, stands alone in a text where the text equals it ignoring case and
no word goes on beside it. When a span is taken out of a text, a keyword that stands alone in what is
left stood alone in the text before, or else the removal made it: the span lay inside it, or kept it
joined to a longer word.
-/

namespace ContactSearch.Text

/-- What stands between two texts equals a keyword ignoring case, and no word goes on beside it. -/
structure Stands (keyword before w after : List Char) : Prop where
  same : w.map fold = keyword.map fold
  left : before.getLast?.any isWordChar = false
  right : after.head?.any isWordChar = false

/-- A keyword stands alone somewhere in a text. -/
def HasKeyword (keyword text : List Char) : Prop :=
  ∃ before w after, text = before ++ w ++ after ∧ Stands keyword before w after

/-- Taking out the span of a cut joins what ends the text before it and what starts the text after it
to a keyword that stands alone. Where one of the two is empty, the keyword was there as a part of a
longer word, which went on in the span. -/
structure Cut.Joins (keyword : List Char) (cut : Cut) (front u v back : List Char) : Prop where
  before : cut.before = front ++ u
  after : cut.after = v ++ back
  stands : Stands keyword front (u ++ v) back
  left : u = [] → cut.found.getLast?.any isWordChar = true
  right : v = [] → cut.found.head?.any isWordChar = true

/-- Taking out the span of a cut makes a keyword that was not there before. -/
def Cut.Forms (keyword : List Char) (cut : Cut) : Prop :=
  ∃ front u v back, cut.Joins keyword front u v back

section Ends

variable {p : Char → Bool} {a b : List Char}

theorem getLast?_any_append (first : a.getLast?.any p = false) (second : b.getLast?.any p = false) :
    (a ++ b).getLast?.any p = false := by
  by_cases none : b = []
  · rwa [none, List.append_nil]
  · rwa [List.getLast?_append_of_ne_nil a none]

theorem head?_any_append (first : a.head?.any p = false) (second : b.head?.any p = false) :
    (a ++ b).head?.any p = false := by
  by_cases none : a = []
  · rwa [none, List.nil_append]
  · rwa [List.head?_append_of_ne_nil a none]

theorem getLast?_any_of_append (whole : (a ++ b).getLast?.any p = false) :
    b.getLast?.any p = false := by
  by_cases none : b = []
  · rw [none]
    rfl
  · rwa [List.getLast?_append_of_ne_nil a none] at whole

theorem head?_any_of_append (whole : (a ++ b).head?.any p = false) : a.head?.any p = false := by
  by_cases none : a = []
  · rw [none]
    rfl
  · rwa [List.head?_append_of_ne_nil a none] at whole

end Ends

variable {keyword : List Char}

theorem Stands.ne_nil {before w after : List Char} (stands : Stands keyword before w after)
    (some : keyword ≠ []) : w ≠ [] := by
  rintro rfl
  exact some (List.map_eq_nil_iff.mp stands.same.symm)

/-- Where a keyword stands alone it occurs, ignoring case. -/
theorem contains_of_hasKeyword {text : List Char} (has : HasKeyword keyword text) :
    contains (keyword.map fold) (text.map fold) = true := by
  obtain ⟨before, w, after, whole, stands⟩ := has
  rw [contains_iff, ← stands.same, whole]
  exact List.IsInfix.map fold ⟨before, after, rfl⟩

theorem eq_nil_of_all {p : Char → Bool} {a : List Char} (each : a.all p = true)
    (last : a.getLast?.any p = false) : a = [] := by
  by_contra some
  have holds := List.all_eq_true.mp each _ (List.getLast_mem some)
  rw [List.getLast?_eq_some_getLast some, Option.any_some, holds] at last
  cases last

/-- A text of word characters is the only keyword that it has. -/
theorem HasKeyword.length_eq {text : List Char} (has : HasKeyword keyword text)
    (letters : text.all isWordChar = true) : text.length = keyword.length := by
  obtain ⟨before, w, after, rfl, stands⟩ := has
  simp only [List.all_append, Bool.and_eq_true] at letters
  obtain ⟨⟨inBefore, -⟩, inAfter⟩ := letters
  have noBefore := eq_nil_of_all inBefore stands.left
  have noAfter : after.reverse = [] := by
    refine eq_nil_of_all (by rwa [List.all_reverse]) ?_
    rw [List.getLast?_reverse]
    exact stands.right
  rw [noBefore, List.reverse_eq_nil_iff.mp noAfter, List.nil_append, List.append_nil,
    ← List.length_map (f := fold), stands.same, List.length_map]

/-- A keyword of a part of a text, where no word goes on beside the part, is one of the text. -/
theorem HasKeyword.extend {before s after : List Char} (has : HasKeyword keyword s)
    (left : before.getLast?.any isWordChar = false) (right : after.head?.any isWordChar = false) :
    HasKeyword keyword (before ++ s ++ after) := by
  obtain ⟨a, w, b, rfl, stands⟩ := has
  refine ⟨before ++ a, w, b ++ after, by simp, stands.same, ?_, ?_⟩
  · exact getLast?_any_append left stands.left
  · exact head?_any_append stands.right right

/-- Blanks around a text are no part of any word, so trimming makes no keyword. -/
theorem hasKeyword_of_trim {s : List Char} (has : HasKeyword keyword (trim s)) :
    HasKeyword keyword s := by
  obtain ⟨a, b, around, front, back⟩ := trimBy_decompose isBlank s
  rw [around]
  refine has.extend ?_ ?_
  · exact any_isWordChar_of_isBlank fun c last => front c (List.mem_of_getLast? last)
  · exact any_isWordChar_of_isBlank fun c first => back c (List.mem_of_mem_head? first)

/-- What equals an ASCII character ignoring case is a word character if that one is. -/
theorem any_isWordChar_of_map_fold {c d : Option Char} (same : d.map fold = c.map fold)
    (ascii : ∀ x ∈ d, (fold x).toNat < 128) : d.any isWordChar = c.any isWordChar := by
  cases d with
  | none =>
    rw [Option.map_none, eq_comm, Option.map_eq_none_iff] at same
    rw [same]
  | some d =>
    obtain ⟨c, rfl, equal⟩ := Option.map_eq_some_iff.mp same.symm
    have low := ascii d rfl
    have low' : (fold c).toNat < 128 := by rwa [equal]
    rw [Option.any_some, Option.any_some, ← isWordChar_fold low, ← isWordChar_fold low', equal]

/-- Texts that equal each other and an ASCII text ignoring case have the same keywords. -/
theorem HasKeyword.of_map_fold {s t : List Char} (has : HasKeyword keyword s)
    (same : s.map fold = t.map fold) (ascii : ∀ c ∈ t.map fold, c.toNat < 128) :
    HasKeyword keyword t := by
  obtain ⟨before, w, after, rfl, stands⟩ := has
  rw [List.map_append, List.map_append] at same
  obtain ⟨front, after', rfl, parts, sameAfter⟩ := List.map_eq_append_iff.mp same.symm
  obtain ⟨before', w', rfl, sameBefore, sameW⟩ := List.map_eq_append_iff.mp parts
  refine ⟨before', w', after', rfl, sameW.trans stands.same, ?_, ?_⟩
  · refine (any_isWordChar_of_map_fold ?_ ?_).trans stands.left
    · rw [← List.getLast?_map, sameBefore, List.getLast?_map]
    · intro c last
      exact ascii (fold c) (List.mem_map_of_mem (by simp [List.mem_of_getLast? last]))
  · refine (any_isWordChar_of_map_fold ?_ ?_).trans stands.right
    · rw [← List.head?_map, sameAfter, List.head?_map]
    · intro c first
      exact ascii (fold c) (List.mem_map_of_mem (by simp [List.mem_of_mem_head? first]))

section Removal

variable {cut : Cut} {front u v back : List Char} (some : keyword ≠ [])
include some

/-- A keyword over the place where a span was taken out stood alone beside the span, or was made. -/
theorem hasKeyword_or_forms_of_joined (before : cut.before = front ++ u) (after : cut.after = v ++ back)
    (stands : Stands keyword front (u ++ v) back) :
    HasKeyword keyword (cut.before ++ cut.found ++ cut.after) ∨ cut.Forms keyword := by
  have inhabited := stands.ne_nil some
  by_cases noU : u = []
  · subst noU
    cases joined : cut.found.getLast?.any isWordChar with
    | true =>
      exact .inr ⟨front, [], v, back, before, after, stands, fun _ => joined,
        fun noV => absurd noV inhabited⟩
    | false =>
      refine .inl ⟨front ++ cut.found, v, back, ?_, stands.same,
        getLast?_any_append stands.left joined, stands.right⟩
      rw [before, after]
      simp
  · by_cases noV : v = []
    · subst noV
      rw [List.append_nil] at stands
      cases joined : cut.found.head?.any isWordChar with
      | true =>
        refine .inr ⟨front, u, [], back, before, after, ?_, fun none => absurd none noU,
          fun _ => joined⟩
        rwa [List.append_nil]
      | false =>
        refine .inl ⟨front, u, cut.found ++ back, ?_, stands.same, stands.left,
          head?_any_append joined stands.right⟩
        rw [before, after]
        simp
    · exact .inr ⟨front, u, v, back, before, after, stands, fun none => absurd none noU,
        fun none => absurd none noV⟩

/-- A keyword that stands alone when a span is taken out did so before, or the removal made it. -/
theorem hasKeyword_or_forms (has : HasKeyword keyword (cut.before ++ cut.after)) :
    HasKeyword keyword (cut.before ++ cut.found ++ cut.after) ∨ cut.Forms keyword := by
  obtain ⟨a, w, b, whole, stands⟩ := has
  rw [List.append_assoc] at whole
  rcases List.append_eq_append_iff.mp whole with ⟨c, inFront, rest⟩ | ⟨u, before, rest⟩
  · -- The keyword lies behind the place of the span.
    by_cases touches : c = []
    · subst touches
      rw [List.append_nil] at inFront
      rw [List.nil_append] at rest
      subst inFront
      exact hasKeyword_or_forms_of_joined some (List.append_nil _).symm rest stands
    · refine .inl ⟨cut.before ++ cut.found ++ c, w, b, ?_, stands.same, ?_, stands.right⟩
      · rw [rest]
        simp
      · have left := stands.left
        rw [inFront, List.getLast?_append_of_ne_nil _ touches] at left
        rwa [List.getLast?_append_of_ne_nil _ touches]
  · rcases List.append_eq_append_iff.mp rest with ⟨c, inside, behind⟩ | ⟨v, parts, after⟩
    · -- The keyword lies in front of the place of the span.
      by_cases touches : c = []
      · subst touches
        rw [List.append_nil] at inside
        rw [List.nil_append] at behind
        subst inside
        refine hasKeyword_or_forms_of_joined some before (v := []) behind.symm ?_
        rwa [List.append_nil]
      · refine .inl ⟨a, w, c ++ cut.found ++ cut.after, ?_, stands.same, stands.left, ?_⟩
        · rw [before, inside]
          simp
        · have right := stands.right
          rw [behind, List.head?_append_of_ne_nil _ touches] at right
          rwa [List.append_assoc, List.head?_append_of_ne_nil _ touches]
    · -- The keyword lies on both sides.
      subst parts
      exact hasKeyword_or_forms_of_joined some before after stands

end Removal

/-! ## Patterns for keywords -/

/-- A keyword starts and ends with an ASCII letter. -/
def isLettered (keyword : List Char) : Bool :=
  keyword.head?.any (fun c => (fold c).isAlpha) && keyword.getLast?.any fun c => (fold c).isAlpha

/-- A word edge lies between a word character and a character that is none. -/
theorem isBoundary_right_iff {left right : Option Char} (inside : right.any isWordChar = true) :
    isBoundary left right = true ↔ left.any isWordChar = false := by
  simp [isBoundary, inside]

theorem isBoundary_left_iff {left right : Option Char} (inside : left.any isWordChar = true) :
    isBoundary left right = true ↔ right.any isWordChar = false := by
  simp [isBoundary, inside]

theorem isBoundary_right_iff_of_outside {left right : Option Char}
    (outside : left.any isWordChar = false) :
    isBoundary left right = true ↔ right.any isWordChar = true := by
  simp [isBoundary, outside]

theorem isBoundary_left_iff_of_outside {left right : Option Char}
    (outside : right.any isWordChar = false) :
    isBoundary left right = true ↔ left.any isWordChar = true := by
  simp [isBoundary, outside]

theorem any_isWordChar_of_fold {c d : Option Char} (same : c.map fold = d.map fold)
    (letter : d.any (fun c => (fold c).isAlpha) = true) : c.any isWordChar = true := by
  cases d with
  | none => cases letter
  | some d =>
    obtain ⟨c, rfl, equal⟩ := Option.map_eq_some_iff.mp same
    exact isWordChar_of_fold_isAlpha (equal ▸ letter)

/-- The pattern for a keyword covers a span where the keyword stands alone. -/
theorem covers_word_iff_stands {s : String} (lettered : isLettered s.toList = true)
    {before w after : List Char} :
    (Pattern.word s).Covers before w after ↔ Stands s.toList before.reverse w after := by
  obtain ⟨first, last⟩ := Bool.and_eq_true_iff.mp lettered
  have inside : w.map fold = s.toList.map fold →
      (w ++ after).head?.any isWordChar = true ∧
        (w.reverse ++ before).head?.any isWordChar = true := by
    intro same
    have head : w.head?.any isWordChar = true := by
      refine any_isWordChar_of_fold ?_ first
      rw [← List.head?_map, same, List.head?_map]
    have tail : w.getLast?.any isWordChar = true := by
      refine any_isWordChar_of_fold ?_ last
      rw [← List.getLast?_map, same, List.getLast?_map]
    have some : w ≠ [] := by
      rintro rfl
      cases head
    rw [List.head?_append_of_ne_nil w some, List.head?_append_of_ne_nil _ (by simpa using some),
      List.head?_reverse]
    exact ⟨head, tail⟩
  rw [Pattern.covers_word_iff]
  constructor
  · rintro ⟨same, start, stop⟩
    obtain ⟨head, tail⟩ := inside same
    refine ⟨same, ?_, (isBoundary_left_iff tail).mp stop⟩
    rw [List.getLast?_reverse]
    exact (isBoundary_right_iff head).mp start
  · rintro ⟨same, left, right⟩
    obtain ⟨head, tail⟩ := inside same
    rw [List.getLast?_reverse] at left
    exact ⟨same, (isBoundary_right_iff head).mpr left, (isBoundary_left_iff tail).mpr right⟩

/-- The pattern for a keyword occurs in the texts in which the keyword stands alone. -/
theorem occurs_word_iff {s : String} (lettered : isLettered s.toList = true) {text : List Char} :
    (Pattern.word s).Occurs text ↔ HasKeyword s.toList text := by
  simp only [Pattern.Occurs, HasKeyword, covers_word_iff_stands lettered, List.reverse_reverse]

/-- The pattern covers no span that does not start with a letter. -/
def Pattern.startsWithLetter : Pattern → Bool
  | never => true
  | literal chars => chars.head?.any fun c => (fold c).isAlpha
  | blanks _ => false
  | edge => false
  | seq first _ => first.startsWithLetter
  | alt first second => first.startsWithLetter && second.startsWithLetter

theorem Pattern.Covers.head_isWordChar {p : Pattern} {before w after : List Char}
    (covers : p.Covers before w after) (letter : p.startsWithLetter = true) :
    w.head?.any isWordChar = true := by
  induction covers with
  | literal same =>
    refine any_isWordChar_of_fold ?_ letter
    rw [← List.head?_map, same, List.head?_map]
  | blanks long blank => cases letter
  | edge boundary => cases letter
  | @seq _ _ _ v _ _ front back ihFront ihBack =>
    have inside := ihFront letter
    have some : v ≠ [] := by
      rintro rfl
      cases inside
    rwa [List.head?_append_of_ne_nil v some]
  | left covers ih => exact ih (Bool.and_eq_true_iff.mp letter).1
  | right covers ih => exact ih (Bool.and_eq_true_iff.mp letter).2

end ContactSearch.Text
