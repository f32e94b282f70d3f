import ContactSearch.Text.Pattern

/-!
# Occurrences of patterns

Where an occurrence of a pattern can end, one rule for each way in which patterns are built; and
how erasing goes on after an occurrence and past a place where there is none.
-/

namespace ContactSearch.Text.Pattern

theorem mem_ends_seq {first second : Pattern} {p e : Place} :
    e ∈ (seq first second).ends p ↔ ∃ q ∈ first.ends p, e ∈ second.ends q := by
  rw [ends, List.mem_flatMap]

theorem mem_ends_edge {p e : Place} :
    e ∈ edge.ends p ↔ isBoundary p.before.head? p.after.head? = true ∧ e = p := by
  rw [ends]
  split <;> simp_all

theorem mem_ends_anyOf {ps : List Pattern} {p e : Place} :
    e ∈ (anyOf ps).ends p ↔ ∃ q ∈ ps, e ∈ q.ends p := by
  unfold anyOf
  induction ps with
  | nil => simp [ends]
  | cons q ps ih => simp [ends, ih]

/-- A literal is skipped where the text goes on with characters that equal it ignoring case. -/
theorem skipLiteral?_eq_some_iff {chars before after : List Char} {e : Place} :
    skipLiteral? chars ⟨before, after⟩ = some e ↔ ∃ w rest, after = w ++ rest ∧
      w.map fold = chars.map fold ∧ e = ⟨w.reverse ++ before, rest⟩ := by
  induction chars generalizing before after with
  | nil =>
    constructor
    · intro found
      cases found
      exact ⟨[], after, rfl, rfl, rfl⟩
    · rintro ⟨w, rest, rfl, same, rfl⟩
      rw [List.map_nil, List.map_eq_nil_iff] at same
      subst same
      rfl
  | cons l ls ih =>
    cases after with
    | nil =>
      constructor
      · intro found
        cases found
      · rintro ⟨w, rest, whole, same, -⟩
        rw [(List.append_eq_nil_iff.mp whole.symm).1] at same
        cases same
    | cons c after =>
      rw [skipLiteral?]
      by_cases equal : fold l = fold c
      · rw [if_pos (beq_iff_eq.mpr equal), ih]
        constructor
        · rintro ⟨w, rest, rfl, same, rfl⟩
          exact ⟨c :: w, rest, rfl, by simp [same, equal], by simp⟩
        · rintro ⟨w, rest, whole, same, rfl⟩
          cases w with
          | nil => cases same
          | cons d w =>
            obtain ⟨rfl, rfl⟩ := List.cons.inj whole
            exact ⟨w, rest, rfl, (List.cons.inj same).2, by simp⟩
      · rw [if_neg (by simpa using equal)]
        constructor
        · intro found
          cases found
        · rintro ⟨w, rest, whole, same, -⟩
          cases w with
          | nil => cases same
          | cons d w =>
            obtain ⟨rfl, -⟩ := List.cons.inj whole
            exact absurd (List.cons.inj same).1.symm equal

theorem mem_ends_text {s : String} {before after : List Char} {e : Place} :
    e ∈ (text s).ends ⟨before, after⟩ ↔ ∃ w rest, after = w ++ rest ∧
      w.map fold = s.toList.map fold ∧ e = ⟨w.reverse ++ before, rest⟩ := by
  rw [text, ends, Option.mem_toList, skipLiteral?_eq_some_iff]

/-! ## Erasing -/

theorem eraseFrom_of_no_end {pattern : Pattern} {before : List Char} {c : Char} {s : List Char}
    (none : pattern.ends ⟨before, c :: s⟩ = []) :
    pattern.eraseFrom 0 before (c :: s) = c :: pattern.eraseFrom 0 (c :: before) s := by
  simp [eraseFrom, none]

theorem eraseFrom_dropping (pattern : Pattern) (before w rest : List Char) :
    pattern.eraseFrom w.length before (w ++ rest) =
      pattern.eraseFrom 0 (w.reverse ++ before) rest := by
  induction w generalizing before with
  | nil => rfl
  | cons c w ih =>
    rw [List.length_cons, List.cons_append, eraseFrom, ih]
    simp

/-- Where every end of an occurrence is the same one, that occurrence is taken out. -/
theorem eraseFrom_of_ends {pattern : Pattern} {before w rest : List Char} (some : w ≠ [])
    (found : pattern.ends ⟨before, w ++ rest⟩ ≠ [])
    (only : ∀ e ∈ pattern.ends ⟨before, w ++ rest⟩, e.after = rest) :
    pattern.eraseFrom 0 before (w ++ rest) = pattern.eraseFrom 0 (w.reverse ++ before) rest := by
  cases w with
  | nil => exact absurd rfl some
  | cons c w =>
    cases ends : pattern.ends ⟨before, c :: (w ++ rest)⟩ with
    | nil => exact absurd ends found
    | cons e es =>
      have after : e.after = rest := only e (by rw [List.cons_append, ends]; exact List.mem_cons_self)
      have length : (c :: (w ++ rest)).length - e.after.length = w.length + 1 := by
        rw [after]
        simp only [List.length_cons, List.length_append]
        omega
      rw [List.cons_append, eraseFrom]
      simp only [ends, length]
      rw [eraseFrom_dropping]
      simp

end ContactSearch.Text.Pattern
