import ContactSearch.Text.Blank
import Mathlib.Data.List.TakeWhile

/-!
# Trimmed and squeezed texts

Trimming takes characters off both ends and leaves none there; squeezing leaves no blank but single
spaces. Both together give the form in which free text is kept.
-/

namespace ContactSearch.Text

/-- The text neither starts nor ends with a character of a class. -/
structure IsTrimmed (p : Char → Bool) (s : List Char) : Prop where
  front : ∀ c ∈ s.head?, p c = false
  back : ∀ c ∈ s.getLast?, p c = false

/-- The only blanks in the text are spaces, and no two of them stand side by side. -/
structure IsSqueezed (s : List Char) : Prop where
  spaces : ∀ c ∈ s, isBlank c = true → c = ' '
  single : ¬ [' ', ' '] <:+: s

/-! ## Blanks -/

/-- The code points of all blanks. -/
def blankCodes : List Nat :=
  List.range' 9 5 ++ List.range' 0x1C 5 ++ [0x85, 0xA0, 0x1680] ++ List.range' 0x2000 11 ++
    [0x2028, 0x2029, 0x202F, 0x205F, 0x3000]

theorem mem_blankCodes {c : Char} (blank : isBlank c = true) : c.toNat ∈ blankCodes := by
  simp only [isBlank, isSpace, Bool.or_eq_true, Bool.and_eq_true, decide_eq_true_eq,
    beq_iff_eq] at blank
  simp only [blankCodes, List.mem_append, List.mem_range'_1, List.mem_cons, List.not_mem_nil,
    or_false]
  omega

/-- What holds of the blanks one by one holds of every blank. -/
theorem forall_isBlank {P : Char → Prop} (each : ∀ n ∈ blankCodes, P (Char.ofNat n)) {c : Char}
    (blank : isBlank c = true) : P c := by
  have known := each c.toNat (mem_blankCodes blank)
  rwa [Char.ofNat_toNat] at known

/-! ## Trimming -/

theorem dropWhile_eq_trimBy_append (p : Char → Bool) (s : List Char) :
    ∃ b, s.dropWhile p = trimBy p s ++ b ∧ ∀ c ∈ b, p c = true := by
  refine ⟨((s.dropWhile p).reverse.takeWhile p).reverse, ?_, ?_⟩
  · have split := List.takeWhile_append_dropWhile (p := p) (l := (s.dropWhile p).reverse)
    have whole := congrArg List.reverse split
    rw [List.reverse_append, List.reverse_reverse] at whole
    exact whole.symm
  · intro c member
    exact List.mem_takeWhile_imp (List.mem_reverse.mp member)

/-- What trimming takes off at either end. -/
theorem trimBy_decompose (p : Char → Bool) (s : List Char) :
    ∃ a b, s = a ++ trimBy p s ++ b ∧ (∀ c ∈ a, p c = true) ∧ ∀ c ∈ b, p c = true := by
  obtain ⟨b, rest, back⟩ := dropWhile_eq_trimBy_append p s
  refine ⟨s.takeWhile p, b, ?_, fun c member => List.mem_takeWhile_imp member, back⟩
  rw [List.append_assoc, ← rest, List.takeWhile_append_dropWhile]

theorem infix_trimBy (p : Char → Bool) (s : List Char) : trimBy p s <:+: s := by
  obtain ⟨a, b, whole, -, -⟩ := trimBy_decompose p s
  exact ⟨a, b, whole.symm⟩

theorem not_of_mem_head?_dropWhile {p : Char → Bool} {s : List Char} {c : Char}
    (first : c ∈ (s.dropWhile p).head?) : p c = false := by
  have stop := List.head?_dropWhile_not p s
  rw [Option.mem_def.mp first] at stop
  simpa using stop

theorem isTrimmed_trimBy (p : Char → Bool) (s : List Char) : IsTrimmed p (trimBy p s) := by
  constructor
  · intro c first
    -- Cutting at the back leaves the first character, unless it leaves nothing.
    obtain ⟨b, rest, -⟩ := dropWhile_eq_trimBy_append p s
    apply not_of_mem_head?_dropWhile (s := s)
    rw [rest, List.head?_append, Option.mem_def.mp first]
    rfl
  · intro c last
    unfold trimBy at last
    rw [List.getLast?_reverse] at last
    exact not_of_mem_head?_dropWhile last

/-- Nothing is left of a text exactly when all of it is of the class. -/
theorem trimBy_eq_nil_iff {p : Char → Bool} {s : List Char} :
    trimBy p s = [] ↔ ∀ c ∈ s, p c = true := by
  constructor
  · intro none c member
    obtain ⟨a, b, whole, front, back⟩ := trimBy_decompose p s
    rw [whole, none, List.append_nil] at member
    rcases List.mem_append.mp member with before | after
    · exact front c before
    · exact back c after
  · intro all
    cases left : trimBy p s with
    | nil => rfl
    | cons c rest =>
      have first : p c = false := (isTrimmed_trimBy p s).front c (by rw [left]; rfl)
      have member : c ∈ s := (infix_trimBy p s).mem (by rw [left]; exact List.mem_cons_self)
      rw [all c member] at first
      cases first

theorem dropWhile_eq_self {p : Char → Bool} {s : List Char} (front : ∀ c ∈ s.head?, p c = false) :
    s.dropWhile p = s := by
  cases s with
  | nil => rfl
  | cons c s => rw [List.dropWhile_cons, if_neg (by simp [front c rfl])]

theorem isTrimmed_of_none {p : Char → Bool} {s : List Char} (none : ∀ c ∈ s, p c = false) :
    IsTrimmed p s :=
  ⟨fun c first => none c (List.mem_of_mem_head? first),
    fun c last => none c (List.mem_of_getLast? last)⟩

/-- There is nothing to trim off a text that is trimmed. -/
theorem trimBy_eq_self {p : Char → Bool} {s : List Char} (trimmed : IsTrimmed p s) :
    trimBy p s = s := by
  have back : ∀ c ∈ s.reverse.head?, p c = false := by
    rw [List.head?_reverse]
    exact trimmed.back
  rw [trimBy, dropWhile_eq_self trimmed.front, dropWhile_eq_self back, List.reverse_reverse]

/-- Trimming takes off what was put around a text, as long as there is nothing to trim off that
text itself. -/
theorem trimBy_padded {p : Char → Bool} {front s back : List Char} (trimmed : IsTrimmed p s)
    (before : ∀ c ∈ front, p c = true) (after : ∀ c ∈ back, p c = true) :
    trimBy p (front ++ (s ++ back)) = s := by
  by_cases none : s = []
  · subst none
    rw [trimBy_eq_nil_iff, List.nil_append, List.forall_mem_append]
    exact ⟨before, after⟩
  · have front_kept : ∀ c ∈ (s ++ back).head?, p c = false := by
      cases s with
      | nil => exact absurd rfl none
      | cons c s => exact trimmed.front
    have back_kept : ∀ c ∈ s.reverse.head?, p c = false := by
      rw [List.head?_reverse]
      exact trimmed.back
    have dropped : ∀ c ∈ back.reverse, p c = true := by simpa using after
    rw [trimBy, List.dropWhile_append_of_pos before, dropWhile_eq_self front_kept,
      List.reverse_append, List.dropWhile_append_of_pos dropped, dropWhile_eq_self back_kept,
      List.reverse_reverse]

/-! ## Squeezing -/

theorem squeezeFrom_cons_of_not_isBlank {c : Char} (solid : isBlank c = false) (afterBlank : Bool)
    (s : List Char) : squeezeFrom afterBlank (c :: s) = c :: squeezeFrom false s := by
  rw [squeezeFrom, if_neg (by simp [solid])]

theorem squeezeFrom_append_of_not_isBlank {w : List Char} (some : w ≠ [])
    (solid : ∀ c ∈ w, isBlank c = false) (afterBlank : Bool) (s : List Char) :
    squeezeFrom afterBlank (w ++ s) = w ++ squeezeFrom false s := by
  induction w generalizing afterBlank with
  | nil => exact absurd rfl some
  | cons c w ih =>
    rw [List.cons_append, squeezeFrom_cons_of_not_isBlank (solid c List.mem_cons_self)]
    by_cases last : w = []
    · subst last; rfl
    · rw [ih last fun d h => solid d (List.mem_cons_of_mem c h), List.cons_append]

theorem eq_space_of_mem_squeezeFrom {afterBlank : Bool} {s : List Char} {c : Char}
    (member : c ∈ squeezeFrom afterBlank s) (blank : isBlank c = true) : c = ' ' := by
  fun_induction squeezeFrom afterBlank s with
  | case1 => cases member
  | case2 d rest h ih => exact ih member
  | case3 afterBlank d rest h fresh ih =>
    rcases List.mem_cons.mp member with same | member
    · exact same
    · exact ih member
  | case4 afterBlank d rest solid ih =>
    rcases List.mem_cons.mp member with same | member
    · rw [same] at blank
      exact absurd blank solid
    · exact ih member

/-- The induction carries along that no space is written right after a blank. -/
theorem single_squeezeFrom (afterBlank : Bool) (s : List Char) :
    ¬ [' ', ' '] <:+: squeezeFrom afterBlank s ∧
      (afterBlank = true → (squeezeFrom afterBlank s).head? ≠ some ' ') := by
  fun_induction squeezeFrom afterBlank s with
  | case1 => simp
  | case2 d rest h ih => exact ih
  | case3 afterBlank d rest h fresh ih =>
    refine ⟨?_, fun set => absurd set fresh⟩
    intro twice
    rcases List.infix_cons_iff.mp twice with front | inside
    · obtain ⟨t, ht⟩ := front
      have next := congrArg List.head? (List.cons.inj ht).2
      exact ih.2 rfl next.symm
    · exact ih.1 inside
  | case4 afterBlank d rest solid ih =>
    have notSpace : d ≠ ' ' := by
      rintro rfl
      exact solid isBlank_space
    refine ⟨?_, fun _ => by simpa using notSpace⟩
    intro twice
    rcases List.infix_cons_iff.mp twice with front | inside
    · obtain ⟨t, ht⟩ := front
      exact notSpace (List.cons.inj ht).1.symm
    · exact ih.1 inside

theorem IsSqueezed.within {s t : List Char} (squeezed : IsSqueezed t) (part : s <:+: t) :
    IsSqueezed s :=
  ⟨fun c member blank => squeezed.spaces c (part.mem member) blank,
    fun twice => squeezed.single (twice.trans part)⟩

theorem isSqueezed_squeeze (s : List Char) : IsSqueezed (squeeze s) :=
  ⟨fun _ member blank => eq_space_of_mem_squeezeFrom member blank, (single_squeezeFrom false s).1⟩

/-- There is nothing to squeeze in a text that is squeezed; right behind a blank it has to go on with
another character. -/
theorem squeezeFrom_eq_self {afterBlank : Bool} {s : List Char} (squeezed : IsSqueezed s)
    (fresh : afterBlank = true → s.head? ≠ some ' ') : squeezeFrom afterBlank s = s := by
  fun_induction squeezeFrom afterBlank s with
  | case1 => rfl
  | case2 c rest blank ih =>
    have space := squeezed.spaces c List.mem_cons_self blank
    exact absurd (by rw [space]; rfl) (fresh rfl)
  | case3 afterBlank c rest blank _ ih =>
    have space := squeezed.spaces c List.mem_cons_self blank
    have next : rest.head? ≠ some ' ' := by
      intro first
      obtain ⟨more, rfl⟩ := List.head?_eq_some_iff.mp first
      exact squeezed.single ⟨[], more, by rw [space]; rfl⟩
    rw [ih (squeezed.within (List.suffix_cons c rest).isInfix) fun _ => next, space]
  | case4 afterBlank c rest solid ih =>
    rw [ih (squeezed.within (List.suffix_cons c rest).isInfix) (by simp)]

theorem squeeze_eq_self {s : List Char} (squeezed : IsSqueezed s) : squeeze s = s :=
  squeezeFrom_eq_self squeezed (by simp)

/-- Squeezing changes blanks only. -/
theorem filter_squeezeFrom (afterBlank : Bool) (s : List Char) :
    (squeezeFrom afterBlank s).filter (fun c => !isBlank c) = s.filter fun c => !isBlank c := by
  fun_induction squeezeFrom afterBlank s with
  | case1 => rfl
  | case2 c rest blank ih => rw [ih, List.filter_cons_of_neg (by simp [blank])]
  | case3 afterBlank c rest blank _ ih =>
    rw [List.filter_cons_of_neg (by simp [isBlank_space]), ih,
      List.filter_cons_of_neg (by simp [blank])]
  | case4 afterBlank c rest solid ih =>
    rw [List.filter_cons_of_pos (by simpa using solid), ih,
      List.filter_cons_of_pos (by simpa using solid)]

theorem filter_squeeze (s : List Char) :
    (squeeze s).filter (fun c => !isBlank c) = s.filter fun c => !isBlank c :=
  filter_squeezeFrom false s

end ContactSearch.Text
