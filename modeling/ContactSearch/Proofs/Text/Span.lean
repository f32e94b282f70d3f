import ContactSearch.Proofs.Text.Occurrence
import Mathlib.Data.List.Basic

/-!
# Spans that a pattern covers

What it means that a pattern occurs at a span of a text, said without places and backtracking: one
rule for each way in which patterns are built. The places that the search goes through are the ends
of just these spans, and what it finds is one of them, with none before it. How a pattern is built
tells what every span that it covers has in it.
-/

namespace ContactSearch.Text

namespace Pattern

/-- A pattern covers a span of a text. What lies before the span is given nearest character first;
only the edges of words look at what lies around it. -/
inductive Covers : Pattern → List Char → List Char → List Char → Prop
  | literal {chars before w after : List Char} (same : w.map fold = chars.map fold) :
    Covers (literal chars) before w after
  | blanks {least : Nat} {before w after : List Char} (long : least ≤ w.length)
    (blank : ∀ c ∈ w, isBlank c = true) : Covers (blanks least) before w after
  | edge {before after : List Char} (boundary : isBoundary before.head? after.head? = true) :
    Covers edge before [] after
  | seq {first second : Pattern} {before v w after : List Char}
    (front : Covers first before v (w ++ after)) (back : Covers second (v.reverse ++ before) w after) :
    Covers (seq first second) before (v ++ w) after
  | left {first second : Pattern} {before w after : List Char} (covers : Covers first before w after) :
    Covers (alt first second) before w after
  | right {first second : Pattern} {before w after : List Char}
    (covers : Covers second before w after) : Covers (alt first second) before w after

variable {p : Pattern} {before after : List Char} {e : Place}

theorem mem_skipBlanks_iff {least : Nat} : e ∈ skipBlanks least before after ↔ ∃ w rest,
    after = w ++ rest ∧ least ≤ w.length ∧ (∀ c ∈ w, isBlank c = true) ∧
      e = ⟨w.reverse ++ before, rest⟩ := by
  induction after generalizing least before with
  | nil =>
    rw [skipBlanks]
    constructor
    · intro member
      split at member
      · rename_i zero
        cases List.mem_singleton.mp member
        exact ⟨[], [], rfl, by simp [zero], by simp, rfl⟩
      · cases member
    · rintro ⟨w, rest, whole, long, -, rfl⟩
      obtain ⟨rfl, rfl⟩ := List.append_eq_nil_iff.mp whole.symm
      rw [if_pos (Nat.le_zero.mp long)]
      exact List.mem_singleton_self _
  | cons c after ih =>
    rw [skipBlanks, List.mem_append]
    constructor
    · rintro (member | member)
      · split at member
        · rename_i blank
          obtain ⟨w, rest, rfl, long, blanks, rfl⟩ := ih.mp member
          refine ⟨c :: w, rest, rfl, ?_, ?_, by simp⟩
          · rw [List.length_cons]
            omega
          · exact List.forall_mem_cons.mpr ⟨blank, blanks⟩
        · cases member
      · split at member
        · rename_i zero
          cases List.mem_singleton.mp member
          exact ⟨[], c :: after, rfl, by simp [zero], by simp, rfl⟩
        · cases member
    · rintro ⟨w, rest, whole, long, blanks, rfl⟩
      cases w with
      | nil =>
        cases whole
        rw [if_pos (Nat.le_zero.mp long)]
        exact .inr (List.mem_singleton_self _)
      | cons d w =>
        obtain ⟨rfl, rfl⟩ := List.cons.inj whole
        obtain ⟨blank, blanks⟩ := List.forall_mem_cons.mp blanks
        rw [if_pos blank, ih]
        rw [List.length_cons] at long
        exact .inl ⟨w, rest, rfl, by omega, blanks, by simp⟩

/-- The places where an occurrence can end are the ends of the spans that the pattern covers. -/
theorem mem_ends_iff : e ∈ p.ends ⟨before, after⟩ ↔ ∃ w rest, after = w ++ rest ∧
    p.Covers before w rest ∧ e = ⟨w.reverse ++ before, rest⟩ := by
  induction p generalizing before after e with
  | never =>
    constructor
    · intro member
      cases member
    · rintro ⟨w, rest, -, covers, -⟩
      cases covers
  | literal chars =>
    rw [ends, Option.mem_toList, skipLiteral?_eq_some_iff]
    constructor
    · rintro ⟨w, rest, whole, same, rfl⟩
      exact ⟨w, rest, whole, .literal same, rfl⟩
    · rintro ⟨w, rest, whole, covers, rfl⟩
      cases covers with
      | literal same => exact ⟨w, rest, whole, same, rfl⟩
  | blanks least =>
    rw [ends, mem_skipBlanks_iff]
    constructor
    · rintro ⟨w, rest, whole, long, blank, rfl⟩
      exact ⟨w, rest, whole, .blanks long blank, rfl⟩
    · rintro ⟨w, rest, whole, covers, rfl⟩
      cases covers with
      | blanks long blank => exact ⟨w, rest, whole, long, blank, rfl⟩
  | edge =>
    rw [mem_ends_edge]
    constructor
    · rintro ⟨boundary, rfl⟩
      exact ⟨[], after, rfl, .edge boundary, rfl⟩
    · rintro ⟨w, rest, rfl, covers, rfl⟩
      cases covers with
      | edge boundary => exact ⟨boundary, rfl⟩
  | seq first second ihFirst ihSecond =>
    rw [mem_ends_seq]
    constructor
    · rintro ⟨q, inFirst, inSecond⟩
      obtain ⟨v, rest, rfl, front, rfl⟩ := ihFirst.mp inFirst
      obtain ⟨w, rest, rfl, back, rfl⟩ := ihSecond.mp inSecond
      exact ⟨v ++ w, rest, by simp, .seq front back, by simp⟩
    · rintro ⟨u, rest, rfl, covers, rfl⟩
      cases covers with
      | @seq _ _ _ v w _ front back =>
        refine ⟨⟨v.reverse ++ before, w ++ rest⟩, ihFirst.mpr ⟨v, w ++ rest, by simp, front, rfl⟩, ?_⟩
        exact ihSecond.mpr ⟨w, rest, rfl, back, by simp⟩
  | alt first second ihFirst ihSecond =>
    rw [ends, List.mem_append, ihFirst, ihSecond]
    constructor
    · rintro (⟨w, rest, whole, covers, rfl⟩ | ⟨w, rest, whole, covers, rfl⟩)
      · exact ⟨w, rest, whole, .left covers, rfl⟩
      · exact ⟨w, rest, whole, .right covers, rfl⟩
    · rintro ⟨w, rest, whole, covers, rfl⟩
      cases covers with
      | left covers => exact .inl ⟨w, rest, whole, covers, rfl⟩
      | right covers => exact .inr ⟨w, rest, whole, covers, rfl⟩

theorem covers_anyOf_iff {ps : List Pattern} {w : List Char} :
    Covers (anyOf ps) before w after ↔ ∃ p ∈ ps, Covers p before w after := by
  unfold anyOf
  induction ps with
  | nil =>
    constructor
    · intro covers
      cases covers
    · rintro ⟨p, listed, -⟩
      cases listed
  | cons q ps ih =>
    rw [List.exists_mem_cons_iff, ← ih]
    constructor
    · intro covers
      cases covers with
      | left covers => exact .inl covers
      | right covers => exact .inr covers
    · rintro (covers | covers)
      · exact .left covers
      · exact .right covers

/-! ## Searching -/

/-- A pattern that covers no span at a place has no end there. -/
theorem ends_eq_nil_iff : p.ends ⟨before, after⟩ = [] ↔
    ∀ w rest, after = w ++ rest → ¬ p.Covers before w rest := by
  rw [List.eq_nil_iff_forall_not_mem]
  constructor
  · intro none w rest whole covers
    exact none _ (mem_ends_iff.mpr ⟨w, rest, whole, covers, rfl⟩)
  · intro none e member
    obtain ⟨w, rest, whole, covers, -⟩ := mem_ends_iff.mp member
    exact none w rest whole covers

/-- What is found is a span that the pattern covers, and it covers none that starts before. -/
structure IsLeftmost (p : Pattern) (before text : List Char) (cut : Cut) : Prop where
  whole : before.reverse ++ text = cut.before ++ cut.found ++ cut.after
  covers : p.Covers cut.before.reverse cut.found cut.after
  first : ∀ a w b, text = a ++ w ++ b → p.Covers (a.reverse ++ before) w b →
    cut.before.length ≤ before.length + a.length

theorem findFrom?_of_no_end {c : Char} {text : List Char}
    (none : p.ends ⟨before, c :: text⟩ = []) :
    p.findFrom? before (c :: text) = p.findFrom? (c :: before) text := by
  rw [findFrom?, none]

/-- A span at the front of the text is found there. -/
theorem findFrom?_of_end {text : List Char} {es : List Place}
    (ends : p.ends ⟨before, text⟩ = e :: es) : ∃ w rest, text = w ++ rest ∧ p.Covers before w rest ∧
      p.findFrom? before text = some ⟨before.reverse, w, rest⟩ := by
  have member : e ∈ p.ends ⟨before, text⟩ := by
    rw [ends]
    exact List.mem_cons_self
  obtain ⟨w, rest, rfl, covers, rfl⟩ := mem_ends_iff.mp member
  refine ⟨w, rest, rfl, covers, ?_⟩
  cases whole : w ++ rest with
  | nil =>
    obtain ⟨rfl, rfl⟩ := List.append_eq_nil_iff.mp whole
    rw [findFrom?, ← whole, ends]
    rfl
  | cons c text =>
    have front : (c :: text).take ((c :: text).length - rest.length) = w := by
      rw [← whole, List.length_append, Nat.add_sub_cancel, List.take_left]
    rw [findFrom?, ← whole, ends, whole]
    simp only [front]

theorem isLeftmost_findFrom? {text : List Char} {cut : Cut}
    (found : p.findFrom? before text = some cut) : IsLeftmost p before text cut := by
  induction text generalizing before with
  | nil =>
    cases ends : p.ends ⟨before, []⟩ with
    | nil =>
      rw [findFrom?, ends] at found
      cases found
    | cons e es =>
      obtain ⟨w, rest, whole, covers, there⟩ := findFrom?_of_end ends
      rw [there] at found
      cases found
      exact ⟨by simp [whole], by simpa using covers, by simp⟩
  | cons c text ih =>
    cases ends : p.ends ⟨before, c :: text⟩ with
    | cons e es =>
      obtain ⟨w, rest, whole, covers, there⟩ := findFrom?_of_end ends
      rw [there] at found
      cases found
      exact ⟨by simp [whole], by simpa using covers, by simp⟩
    | nil =>
      rw [findFrom?_of_no_end ends] at found
      obtain ⟨whole, covers, first⟩ := ih found
      refine ⟨by simpa using whole, covers, ?_⟩
      intro a w b split there
      cases a with
      | nil => exact absurd there (ends_eq_nil_iff.mp ends w b split)
      | cons d a =>
        obtain ⟨rfl, rest⟩ := List.cons.inj split
        have later := first a w b rest (by simpa using there)
        rw [List.length_cons] at later ⊢
        omega

theorem findFrom?_eq_none_iff {text : List Char} : p.findFrom? before text = none ↔
    ∀ a w b, text = a ++ w ++ b → ¬ p.Covers (a.reverse ++ before) w b := by
  induction text generalizing before with
  | nil =>
    constructor
    · intro missing a w b whole covers
      obtain ⟨front, rfl⟩ := List.append_eq_nil_iff.mp whole.symm
      obtain ⟨rfl, rfl⟩ := List.append_eq_nil_iff.mp front
      cases ends : p.ends ⟨before, []⟩ with
      | nil => exact ends_eq_nil_iff.mp ends [] [] rfl covers
      | cons e es =>
        obtain ⟨w, rest, -, -, there⟩ := findFrom?_of_end ends
        rw [there] at missing
        cases missing
    · intro none
      have no_end : p.ends ⟨before, []⟩ = [] :=
        ends_eq_nil_iff.mpr fun w rest whole => none [] w rest whole
      rw [findFrom?, no_end]
      rfl
  | cons c text ih =>
    constructor
    · intro missing a w b whole covers
      cases ends : p.ends ⟨before, c :: text⟩ with
      | cons e es =>
        obtain ⟨w, rest, -, -, there⟩ := findFrom?_of_end ends
        rw [there] at missing
        cases missing
      | nil =>
        rw [findFrom?_of_no_end ends] at missing
        cases a with
        | nil => exact ends_eq_nil_iff.mp ends w b whole covers
        | cons d a =>
          obtain ⟨rfl, rest⟩ := List.cons.inj whole
          exact ih.mp missing a w b rest (by simpa using covers)
    · intro none
      have no_end : p.ends ⟨before, c :: text⟩ = [] :=
        ends_eq_nil_iff.mpr fun w rest whole => none [] w rest whole
      rw [findFrom?_of_no_end no_end, ih]
      intro a w b whole covers
      exact none (c :: a) w b (by simp [whole]) (by simpa using covers)

/-- A pattern is found exactly where it covers some span of the text. -/
theorem find?_eq_none_iff {text : List Char} : p.find? text = none ↔
    ∀ a w b, text = a ++ w ++ b → ¬ p.Covers a.reverse w b := by
  rw [find?, findFrom?_eq_none_iff]
  simp only [List.append_nil]

theorem covers_of_find? {text : List Char} {cut : Cut} (found : p.find? text = some cut) :
    text = cut.before ++ cut.found ++ cut.after ∧
      p.Covers cut.before.reverse cut.found cut.after := by
  obtain ⟨whole, covers, -⟩ := isLeftmost_findFrom? found
  exact ⟨by simpa using whole, covers⟩

/-- The pattern covers some span of the text. -/
def Occurs (p : Pattern) (text : List Char) : Prop :=
  ∃ before span after, text = before ++ span ++ after ∧ p.Covers before.reverse span after

theorem occurs_of_find? {text : List Char} {cut : Cut} (found : p.find? text = some cut) :
    p.Occurs text := by
  obtain ⟨whole, covers⟩ := covers_of_find? found
  exact ⟨cut.before, cut.found, cut.after, whole, covers⟩

/-- Nothing is found exactly in the texts in which the pattern does not occur. -/
theorem find?_eq_none_iff_not_occurs {text : List Char} : p.find? text = none ↔ ¬ p.Occurs text := by
  rw [find?_eq_none_iff]
  constructor
  · rintro none ⟨before, span, after, whole, covers⟩
    exact none before span after whole covers
  · intro none before span after whole covers
    exact none ⟨before, span, after, whole, covers⟩

/-! ## What every covered span has -/

theorem covers_text_iff {s : String} {w : List Char} :
    (text s).Covers before w after ↔ w.map fold = s.toList.map fold := by
  constructor
  · intro covers
    cases covers with
    | literal same => exact same
  · exact .literal

/-- A text that does not start or end inside a word: an edge lies at each of its ends. -/
theorem covers_word_iff {s : String} {w : List Char} :
    (word s).Covers before w after ↔ w.map fold = s.toList.map fold ∧
      isBoundary before.head? (w ++ after).head? = true ∧
      isBoundary (w.reverse ++ before).head? after.head? = true := by
  constructor
  · intro covers
    cases covers with
    | seq front rest =>
      cases front with
      | edge start =>
        cases rest with
        | seq here back =>
          cases back with
          | edge stop =>
            rw [List.nil_append, List.append_nil]
            rw [List.append_nil] at start
            exact ⟨covers_text_iff.mp here, start, stop⟩
  · rintro ⟨same, start, stop⟩
    have covers : (word s).Covers before ([] ++ (w ++ [])) after := by
      refine .seq (.edge ?_) (.seq (.literal same) (.edge stop))
      rwa [List.append_nil]
    rwa [List.append_nil, List.nil_append] at covers

/-- A pattern, blanks, and other patterns with blanks between them. -/
theorem covers_spaced_iff {q : Pattern} {ps : List Pattern} {w : List Char} :
    (spaced (p :: q :: ps)).Covers before w after ↔ ∃ u gap v, w = u ++ (gap ++ v) ∧ gap ≠ [] ∧
      (∀ c ∈ gap, isBlank c = true) ∧ p.Covers before u (gap ++ v ++ after) ∧
      (spaced (q :: ps)).Covers (gap.reverse ++ (u.reverse ++ before)) v after := by
  constructor
  · intro covers
    cases covers with
    | seq front rest =>
      cases rest with
      | seq between back =>
        cases between with
        | blanks long blank =>
          exact ⟨_, _, _, rfl, List.ne_nil_of_length_pos long, blank, front, back⟩
  · rintro ⟨u, gap, v, rfl, some, blank, front, back⟩
    exact .seq front (.seq (.blanks (List.length_pos_iff.mpr some) blank) back)

/-- Patterns with blanks between them cover spans that end in one of the last pattern. -/
theorem exists_covers_last {ps : List Pattern} {q : Pattern} {w : List Char}
    (covers : (spaced (ps ++ [q])).Covers before w after) :
    ∃ front v around, w = front ++ v ∧ q.Covers around v after := by
  induction ps generalizing before w with
  | nil => exact ⟨[], w, before, rfl, covers⟩
  | cons p ps ih =>
    have parts : ∃ r rs, ps ++ [q] = r :: rs := List.exists_cons_of_ne_nil (by simp)
    obtain ⟨r, rs, split⟩ := parts
    rw [List.cons_append, split, covers_spaced_iff, ← split] at covers
    obtain ⟨u, gap, v, rfl, -, -, -, back⟩ := covers
    obtain ⟨front, v, around, rfl, last⟩ := ih back
    exact ⟨u ++ (gap ++ front), v, around, by simp, last⟩

/-- The pattern covers no empty span. -/
def isSolid : Pattern → Bool
  | never => true
  | literal chars => !chars.isEmpty
  | blanks least => least != 0
  | edge => false
  | seq first second => first.isSolid || second.isSolid
  | alt first second => first.isSolid && second.isSolid

theorem Covers.ne_nil {w : List Char} (covers : p.Covers before w after) (solid : p.isSolid = true) :
    w ≠ [] := by
  induction covers with
  | literal same =>
    intro none
    rw [none, List.map_nil, eq_comm, List.map_eq_nil_iff] at same
    simp [isSolid, same] at solid
  | blanks long blank =>
    intro none
    rw [none, List.length_nil, Nat.le_zero] at long
    simp [isSolid, long] at solid
  | edge boundary => cases solid
  | seq front back ihFront ihBack =>
    intro none
    obtain ⟨noFront, noBack⟩ := List.append_eq_nil_iff.mp none
    rcases Bool.or_eq_true_iff.mp solid with first | second
    · exact ihFront first noFront
    · exact ihBack second noBack
  | left covers ih => exact ih (Bool.and_eq_true_iff.mp solid).1
  | right covers ih => exact ih (Bool.and_eq_true_iff.mp solid).2

end Pattern

theorem toList_ne_nil {s : String} {n : Nat} (long : n < s.length) : s.toList ≠ [] := by
  apply List.ne_nil_of_length_pos
  rw [String.length_toList]
  omega

/-- A text has another one in it when case is ignored. -/
def HasText (key s : List Char) : Prop :=
  key.map fold <:+: s.map fold

namespace HasText

variable {key s : List Char}

/-- A text has what a part of it has. -/
theorem extend {t : List Char} (has : HasText key s) (part : s <:+: t) : HasText key t :=
  has.trans (part.map fold)

/-- A text has the parts of what it has. -/
theorem part {piece : List Char} (has : HasText key s) (inside : piece <:+: key) :
    HasText piece s :=
  (inside.map fold).trans has

theorem ne_nil (has : HasText key s) (some : key ≠ []) : s ≠ [] := by
  intro none
  rw [HasText, none, List.map_nil, List.infix_nil, List.map_eq_nil_iff] at has
  exact some has

end HasText

namespace Pattern

/-- Every span that the pattern covers has this text in it when case is ignored. -/
def Forces (p : Pattern) (key : List Char) : Prop :=
  ∀ before w after, p.Covers before w after → HasText key w

variable {p q : Pattern} {key : List Char}

theorem forces_text (s : String) : (text s).Forces s.toList := by
  intro before w after covers
  cases covers with
  | literal same => exact ⟨[], [], by rw [same, List.nil_append, List.append_nil]⟩

theorem Forces.part {piece : List Char} (forces : p.Forces key) (inside : piece <:+: key) :
    p.Forces piece := by
  intro before w after covers
  exact (forces before w after covers).part inside

theorem Forces.seq_left (first : p.Forces key) : (seq p q).Forces key := by
  intro before w after covers
  cases covers with
  | seq front back => exact (first _ _ _ front).extend (List.prefix_append _ _).isInfix

theorem Forces.seq_right (second : q.Forces key) : (seq p q).Forces key := by
  intro before w after covers
  cases covers with
  | seq front back => exact (second _ _ _ back).extend (List.suffix_append _ _).isInfix

/-- What one of the parts forces, the parts with blanks between them force. -/
theorem Forces.spaced {ps : List Pattern} (forces : p.Forces key) (listed : p ∈ ps) :
    (spaced ps).Forces key := by
  induction ps with
  | nil => cases listed
  | cons q ps ih =>
    cases ps with
    | nil =>
      rw [← List.mem_singleton.mp listed]
      exact forces
    | cons r ps =>
      rcases List.mem_cons.mp listed with rfl | later
      · exact forces.seq_left
      · exact (ih later).seq_right.seq_right

theorem forces_phrase {ws : List String} {s : String} (listed : s ∈ ws) :
    (phrase ws).Forces s.toList :=
  (forces_text s).spaced (List.mem_map_of_mem listed)

theorem forces_word (s : String) : (word s).Forces s.toList :=
  (forces_text s).seq_left.seq_right

/-- The search finds a string exactly in the texts that have it when case is ignored. -/
theorem exists_find?_text_iff {s : String} {t : List Char} :
    (∃ cut, (text s).find? t = some cut) ↔ HasText s.toList t := by
  constructor
  · rintro ⟨cut, found⟩
    obtain ⟨whole, covers⟩ := covers_of_find? found
    rw [whole]
    exact (forces_text s _ _ _ covers).extend (List.infix_append _ _ _)
  · rintro ⟨a, b, whole⟩
    obtain ⟨front, after, rfl, there, rfl⟩ := List.map_eq_append_iff.mp whole.symm
    obtain ⟨before, w, rfl, rfl, same⟩ := List.map_eq_append_iff.mp there
    rw [← Option.ne_none_iff_exists']
    intro missing
    exact find?_eq_none_iff.mp missing before w after rfl (.literal same)

end Pattern

end ContactSearch.Text
