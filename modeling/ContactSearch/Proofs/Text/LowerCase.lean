import ContactSearch.Proofs.Text.Span

/-!
# Phrases in lower case

A phrase of ASCII characters that occurs in a text in lower case occurs in the text itself when case
is ignored. Characters can change their number in lower case, but only the capital I with a dot does,
and the dot that it leaves behind its i is no ASCII character; so a phrase meets it only if it ends
with that i.
-/

namespace ContactSearch.Text

/-- A phrase of ASCII characters in lower case that does not end with an i. -/
structure IsPlain (key : List Char) : Prop where
  ascii : ∀ c ∈ key, c.toNat < 128
  folded : ∀ c ∈ key, fold c = c
  ending : key.getLast? ≠ some 'i'

theorem isPlain_iff {key : List Char} : IsPlain key ↔
    key.all (fun c => decide (c.toNat < 128) && fold c == c) = true ∧ key.getLast? ≠ some 'i' := by
  simp only [List.all_eq_true, Bool.and_eq_true, decide_eq_true_eq, beq_iff_eq]
  constructor
  · intro plain
    exact ⟨fun c member => ⟨plain.ascii c member, plain.folded c member⟩, plain.ending⟩
  · intro ⟨each, ending⟩
    exact ⟨fun c member => (each c member).1, fun c member => (each c member).2, ending⟩

instance (key : List Char) : Decidable (IsPlain key) :=
  decidable_of_iff' _ isPlain_iff

/-- Behind its first character a plain phrase is plain. -/
theorem IsPlain.tail {k : Char} {ks : List Char} (plain : IsPlain (k :: ks)) : IsPlain ks := by
  refine ⟨fun c member => plain.ascii c (List.mem_cons_of_mem k member),
    fun c member => plain.folded c (List.mem_cons_of_mem k member), ?_⟩
  intro last
  apply plain.ending
  rw [List.getLast?_cons, last]
  rfl

/-- The capital I with a dot becomes two characters. Any other character becomes a single one, and
equals it ignoring case if that one is an ASCII character. -/
theorem lowerAt_cases (before : List Char) (c : Char) (after : List Char) :
    lowerAt before c after = ['i', '\u0307'] ∨
      ∃ x, lowerAt before c after = [x] ∧ (x.toNat < 128 → fold c = x) := by
  unfold lowerAt
  by_cases sigma : (c == 'Σ') = true
  · rw [if_pos sigma]
    by_cases final : (startsCased before && !startsCased after) = true
    · rw [if_pos final]
      exact .inr ⟨'ς', rfl, fun ascii => absurd ascii (by decide)⟩
    · rw [if_neg final]
      exact .inr ⟨'σ', rfl, fun ascii => absurd ascii (by decide)⟩
  · rw [if_neg sigma]
    by_cases dotted : (c == 'İ') = true
    · rw [if_pos dotted]
      exact .inl rfl
    · rw [if_neg dotted]
      refine .inr ⟨lowerChar c, rfl, ?_⟩
      intro ascii
      rw [fold]
      exact if_pos ascii

/-- A plain phrase at the front of a text in lower case is at the front of the text ignoring case. -/
theorem prefix_of_prefix_lowerFrom {key before s : List Char} (plain : IsPlain key)
    (front : key <+: lowerFrom before s) : key.map fold <+: s.map fold := by
  induction key generalizing before s with
  | nil => exact List.nil_prefix
  | cons k ks ih =>
    cases s with
    | nil => simp [lowerFrom] at front
    | cons c s =>
      rw [lowerFrom] at front
      rcases lowerAt_cases before c s with dotted | ⟨x, single, same⟩
      · rw [dotted, List.cons_append, List.cons_prefix_cons] at front
        obtain ⟨rfl, rest⟩ := front
        cases ks with
        | nil => exact absurd rfl plain.ending
        | cons d ks =>
          rw [List.cons_append, List.cons_prefix_cons] at rest
          have ascii := plain.ascii d (by simp)
          rw [rest.1] at ascii
          exact absurd ascii (by decide)
      · rw [single, List.singleton_append, List.cons_prefix_cons] at front
        obtain ⟨rfl, rest⟩ := front
        have first : fold k = fold c := by
          rw [same (plain.ascii k List.mem_cons_self), plain.folded k List.mem_cons_self]
        rw [List.map_cons, List.map_cons, List.cons_prefix_cons]
        exact ⟨first, ih plain.tail rest⟩

theorem hasText_of_infix_lowerFrom {key before s : List Char} (some : key ≠ [])
    (plain : IsPlain key) (there : key <:+: lowerFrom before s) : HasText key s := by
  induction s generalizing before with
  | nil => exact absurd (List.infix_nil.mp there) some
  | cons c s ih =>
    have atFront : key <+: lowerFrom before (c :: s) → HasText key (c :: s) := by
      intro front
      exact (prefix_of_prefix_lowerFrom plain front).isInfix
    have later : key <:+: lowerFrom (c :: before) s → HasText key (c :: s) := by
      intro rest
      exact (ih rest).extend (List.suffix_cons c s).isInfix
    rw [lowerFrom] at there atFront
    rcases lowerAt_cases before c s with dotted | ⟨x, single, -⟩
    · rw [dotted, List.cons_append, List.cons_append, List.nil_append] at there atFront
      rw [List.infix_cons_iff, List.infix_cons_iff] at there
      rcases there with front | behind | rest
      · exact atFront front
      · -- no phrase starts with the dot
        cases key with
        | nil => exact absurd rfl some
        | cons k ks =>
          have ascii := plain.ascii k List.mem_cons_self
          rw [(List.cons_prefix_cons.mp behind).1] at ascii
          exact absurd ascii (by decide)
      · exact later rest
    · rw [single, List.singleton_append] at there atFront
      rcases List.infix_cons_iff.mp there with front | rest
      · exact atFront front
      · exact later rest

/-- A plain phrase of a text in lower case is in the text ignoring case. -/
theorem hasText_of_infix_lower {key s : List Char} (some : key ≠ []) (plain : IsPlain key)
    (there : key <:+: lower s) : HasText key s :=
  hasText_of_infix_lowerFrom some plain there

end ContactSearch.Text
