import ContactSearch.Text.Pattern
import Mathlib.Data.List.Basic

/-!
# The case of ASCII letters

Writing the ASCII letters of a text in lower case commutes with everything that is done with the
text of a query: trimming and squeezing, lower case as a whole, and the search for a pattern, which
then ends at the same places. For single characters this is a fact about the 128 of them that can
change at all.
-/

namespace ContactSearch.Text

/-- The text with its ASCII letters in lower case and all else as it is. -/
def asciiLower (s : List Char) : List Char :=
  s.map Char.toLower

/-- Two texts that differ in the case of ASCII letters only. -/
def AsciiAlike (s t : List Char) : Prop :=
  asciiLower s = asciiLower t

instance (s t : List Char) : Decidable (AsciiAlike s t) :=
  inferInstanceAs (Decidable (asciiLower s = asciiLower t))

@[simp] theorem asciiLower_nil : asciiLower [] = [] := rfl

@[simp] theorem asciiLower_cons (c : Char) (s : List Char) :
    asciiLower (c :: s) = c.toLower :: asciiLower s := rfl

@[simp] theorem asciiLower_append (s t : List Char) :
    asciiLower (s ++ t) = asciiLower s ++ asciiLower t :=
  List.map_append

@[simp] theorem length_asciiLower (s : List Char) : (asciiLower s).length = s.length :=
  List.length_map _

theorem asciiLower_reverse (s : List Char) : asciiLower s.reverse = (asciiLower s).reverse :=
  List.map_reverse

theorem asciiLower_take (n : Nat) (s : List Char) :
    asciiLower (s.take n) = (asciiLower s).take n :=
  List.map_take

/-- Texts that are alike are empty together. -/
theorem AsciiAlike.isEmpty_eq {s t : String} (alike : AsciiAlike s.toList t.toList) :
    s.isEmpty = t.isEmpty := by
  have length := congrArg List.length alike
  rw [length_asciiLower, length_asciiLower] at length
  rw [Bool.eq_iff_iff, String.isEmpty_iff, String.isEmpty_iff, ← String.toList_eq_nil_iff,
    ← String.toList_eq_nil_iff, ← List.length_eq_zero_iff, length, List.length_eq_zero_iff]

/-! ## Characters -/

theorem toLower_of_beyond {c : Char} (beyond : 128 ≤ c.toNat) : c.toLower = c := by
  have notUpper : ¬ (c.val ≥ 65 ∧ c.val ≤ 90) := by
    rintro ⟨-, upTo⟩
    have small : c.toNat ≤ 90 := UInt32.le_iff_toNat_le.mp upTo
    omega
  exact dif_neg notUpper

/-- What is the same for both cases of the ASCII letters is the same for both cases of any. -/
theorem apply_toLower {α : Type} {f : Char → α}
    (ascii : ∀ n < 128, f (Char.ofNat n).toLower = f (Char.ofNat n)) (c : Char) :
    f c.toLower = f c := by
  by_cases beyond : 128 ≤ c.toNat
  · rw [toLower_of_beyond beyond]
  · have known := ascii c.toNat (Nat.lt_of_not_le beyond)
    rwa [Char.ofNat_toNat] at known

/-- Both cases of an ASCII letter are alike in everything that is asked of single characters. -/
private theorem ascii_toLower : ∀ n < 128,
    lowerChar (Char.ofNat n).toLower = lowerChar (Char.ofNat n) ∧
    isCased (Char.ofNat n).toLower = isCased (Char.ofNat n) ∧
    isCaseIgnorable (Char.ofNat n).toLower = isCaseIgnorable (Char.ofNat n) ∧
    isBlank (Char.ofNat n).toLower = isBlank (Char.ofNat n) ∧
    isWordChar (Char.ofNat n).toLower = isWordChar (Char.ofNat n) ∧
    ((Char.ofNat n).toLower == 'Σ') = (Char.ofNat n == 'Σ') ∧
    ((Char.ofNat n).toLower == 'İ') = (Char.ofNat n == 'İ') := by
  decide

theorem lowerChar_toLower : ∀ c : Char, lowerChar c.toLower = lowerChar c :=
  apply_toLower fun n low => (ascii_toLower n low).1

theorem fold_toLower (c : Char) : fold c.toLower = fold c := by
  rw [fold, lowerChar_toLower, fold]

theorem isCased_toLower : ∀ c : Char, isCased c.toLower = isCased c :=
  apply_toLower fun n low => (ascii_toLower n low).2.1

theorem isCaseIgnorable_toLower : ∀ c : Char, isCaseIgnorable c.toLower = isCaseIgnorable c :=
  apply_toLower fun n low => (ascii_toLower n low).2.2.1

theorem isBlank_toLower : ∀ c : Char, isBlank c.toLower = isBlank c :=
  apply_toLower fun n low => (ascii_toLower n low).2.2.2.1

theorem isWordChar_toLower : ∀ c : Char, isWordChar c.toLower = isWordChar c :=
  apply_toLower fun n low => (ascii_toLower n low).2.2.2.2.1

/-! ## Trimming and squeezing -/

theorem dropWhile_asciiLower {p : Char → Bool} (blind : ∀ c : Char, p c.toLower = p c)
    (s : List Char) : (asciiLower s).dropWhile p = asciiLower (s.dropWhile p) := by
  rw [asciiLower, List.dropWhile_map, asciiLower]
  congr 2
  exact funext blind

theorem trim_asciiLower (s : List Char) : trim (asciiLower s) = asciiLower (trim s) := by
  simp only [trim, trimBy, dropWhile_asciiLower isBlank_toLower, ← asciiLower_reverse]

theorem squeezeFrom_asciiLower (afterBlank : Bool) (s : List Char) :
    squeezeFrom afterBlank (asciiLower s) = asciiLower (squeezeFrom afterBlank s) := by
  fun_induction squeezeFrom afterBlank s with
  | case1 => rfl
  | case2 c rest blank ih => simp [squeezeFrom, isBlank_toLower, blank, ih]
  | case3 afterBlank c rest blank fresh ih =>
    simp [squeezeFrom, isBlank_toLower, blank, fresh, ih]
  | case4 afterBlank c rest solid ih => simp [squeezeFrom, isBlank_toLower, solid, ih]

theorem squeeze_asciiLower (s : List Char) : squeeze (asciiLower s) = asciiLower (squeeze s) :=
  squeezeFrom_asciiLower false s

theorem any_isWordChar_asciiLower (s : List Char) :
    (asciiLower s).any isWordChar = s.any isWordChar := by
  rw [asciiLower, List.any_map]
  congr 1
  exact funext isWordChar_toLower

/-! ## Lower case -/

theorem startsCased_asciiLower (s : List Char) : startsCased (asciiLower s) = startsCased s := by
  rw [startsCased, dropWhile_asciiLower isCaseIgnorable_toLower, startsCased]
  cases s.dropWhile isCaseIgnorable with
  | nil => rfl
  | cons c rest => simp [isCased_toLower]

/-- The final sigma looks at its neighbours, but only at whether they have a case. -/
theorem lowerAt_asciiLower (before : List Char) (c : Char) (after : List Char) :
    lowerAt (asciiLower before) c.toLower (asciiLower after) = lowerAt before c after := by
  have sigma : (c.toLower == 'Σ') = (c == 'Σ') :=
    apply_toLower (f := (· == 'Σ')) (fun n low => (ascii_toLower n low).2.2.2.2.2.1) c
  have dotted : (c.toLower == 'İ') = (c == 'İ') :=
    apply_toLower (f := (· == 'İ')) (fun n low => (ascii_toLower n low).2.2.2.2.2.2) c
  simp only [lowerAt, sigma, dotted, startsCased_asciiLower, lowerChar_toLower]

theorem lowerFrom_asciiLower (before s : List Char) :
    lowerFrom (asciiLower before) (asciiLower s) = lowerFrom before s := by
  induction s generalizing before with
  | nil => rfl
  | cons c rest ih =>
    rw [asciiLower_cons, lowerFrom, lowerAt_asciiLower, ← asciiLower_cons, ih, lowerFrom]

theorem lower_asciiLower (s : List Char) : lower (asciiLower s) = lower s :=
  lowerFrom_asciiLower [] s

/-- Lower case does away with the difference. -/
theorem AsciiAlike.lower_eq {s t : List Char} (alike : AsciiAlike s t) : lower s = lower t := by
  rw [← lower_asciiLower s, alike, lower_asciiLower]

/-- A text of ASCII characters in lower case. -/
theorem lower_of_ascii {s : List Char} (ascii : ∀ c ∈ s, c.toNat < 128) : lower s = asciiLower s := by
  have onward (before : List Char) : lowerFrom before s = asciiLower s := by
    induction s generalizing before with
    | nil => rfl
    | cons c rest ih =>
      have low := ascii c List.mem_cons_self
      have single : lowerAt before c rest = [c.toLower] := by
        have sigma : ¬ (c == 'Σ') = true := by
          intro same
          rw [beq_iff_eq.mp same] at low
          exact absurd low (by decide)
        have dotted : ¬ (c == 'İ') = true := by
          intro same
          rw [beq_iff_eq.mp same] at low
          exact absurd low (by decide)
        rw [lowerAt, if_neg sigma, if_neg dotted, lowerChar, if_pos low]
      rw [lowerFrom, single, ih fun d member => ascii d (List.mem_cons_of_mem c member)]
      rfl
  exact onward []

/-! ## Patterns -/

/-- A place with the ASCII letters around it in lower case. -/
def Place.asciiLower (p : Place) : Place :=
  ⟨Text.asciiLower p.before, Text.asciiLower p.after⟩

@[simp] theorem Place.after_asciiLower (p : Place) :
    p.asciiLower.after = Text.asciiLower p.after := rfl

/-- A cut text with the ASCII letters of its parts in lower case. -/
def Cut.asciiLower (c : Cut) : Cut :=
  ⟨Text.asciiLower c.before, Text.asciiLower c.found, Text.asciiLower c.after⟩

theorem Cut.rest_asciiLower (c : Cut) : c.asciiLower.rest = Text.asciiLower c.rest := by
  rw [rest, Cut.asciiLower, ← asciiLower_append, trim_asciiLower, rest]

namespace Pattern

theorem skipLiteral?_asciiLower (chars : List Char) (p : Place) :
    skipLiteral? chars p.asciiLower = (skipLiteral? chars p).map Place.asciiLower := by
  fun_induction skipLiteral? chars p with
  | case1 p => rfl
  | case2 l ls before => rfl
  | case3 l ls before c after same ih =>
    rw [← ih]
    simp [Place.asciiLower, skipLiteral?, fold_toLower, beq_iff_eq.mp same]
  | case4 l ls before c after differ =>
    simp only [Place.asciiLower, asciiLower_cons, skipLiteral?, fold_toLower, if_neg differ]
    rfl

theorem skipBlanks_asciiLower (least : Nat) (before after : List Char) :
    skipBlanks least (asciiLower before) (asciiLower after) =
      (skipBlanks least before after).map Place.asciiLower := by
  induction after generalizing least before with
  | nil =>
    rw [asciiLower_nil, skipBlanks, skipBlanks]
    split <;> rfl
  | cons c after ih =>
    rw [asciiLower_cons, skipBlanks, skipBlanks, isBlank_toLower, ← asciiLower_cons, ih,
      List.map_append]
    congr 1 <;> split <;> rfl

theorem isBoundary_asciiLower (p : Place) :
    isBoundary p.asciiLower.before.head? p.asciiLower.after.head? =
      isBoundary p.before.head? p.after.head? := by
  have side (s : List Char) : (asciiLower s).head?.any isWordChar = s.head?.any isWordChar := by
    cases s with
    | nil => rfl
    | cons c rest => exact isWordChar_toLower c
  simp only [isBoundary, Place.asciiLower, side]

/-- An occurrence ends at the same places. -/
theorem ends_asciiLower (pattern : Pattern) (p : Place) :
    pattern.ends p.asciiLower = (pattern.ends p).map Place.asciiLower := by
  induction pattern generalizing p with
  | never => rfl
  | literal chars =>
    rw [ends, ends, skipLiteral?_asciiLower]
    cases skipLiteral? chars p <;> rfl
  | blanks least => exact skipBlanks_asciiLower least p.before p.after
  | edge =>
    rw [ends, ends, isBoundary_asciiLower]
    split <;> rfl
  | seq first second ihFirst ihSecond =>
    rw [ends, ends, ihFirst, List.flatMap_map, List.map_flatMap]
    exact List.flatMap_congr fun e _ => ihSecond e
  | alt first second ihFirst ihSecond =>
    rw [ends, ends, ihFirst, ihSecond, List.map_append]

theorem findFrom?_asciiLower (pattern : Pattern) (before s : List Char) :
    pattern.findFrom? (asciiLower before) (asciiLower s) =
      (pattern.findFrom? before s).map Cut.asciiLower := by
  induction s generalizing before with
  | nil =>
    have there : pattern.ends ⟨asciiLower before, []⟩ = _ := pattern.ends_asciiLower ⟨before, []⟩
    rw [asciiLower_nil, findFrom?, findFrom?, there]
    cases pattern.ends ⟨before, []⟩ with
    | nil => rfl
    | cons e es => simp [Cut.asciiLower, asciiLower_reverse]
  | cons c after ih =>
    have there : pattern.ends ⟨asciiLower before, c.toLower :: asciiLower after⟩ = _ :=
      pattern.ends_asciiLower ⟨before, c :: after⟩
    rw [asciiLower_cons, findFrom?, findFrom?, there]
    cases pattern.ends ⟨before, c :: after⟩ with
    | nil => exact ih (c :: before)
    | cons e es => simp [Cut.asciiLower, asciiLower_reverse, asciiLower_take]

theorem find?_asciiLower (pattern : Pattern) (s : List Char) :
    pattern.find? (asciiLower s) = (pattern.find? s).map Cut.asciiLower :=
  pattern.findFrom?_asciiLower [] s

theorem eraseFrom_asciiLower (pattern : Pattern) (dropping : Nat) (before s : List Char) :
    pattern.eraseFrom dropping (asciiLower before) (asciiLower s) =
      asciiLower (pattern.eraseFrom dropping before s) := by
  induction s generalizing dropping before with
  | nil => rfl
  | cons c after ih =>
    -- whatever becomes of the first character, erasing goes on behind it
    have onward (n : Nat) : pattern.eraseFrom n (c.toLower :: asciiLower before) (asciiLower after) =
        asciiLower (pattern.eraseFrom n (c :: before) after) := ih n (c :: before)
    cases dropping with
    | succ n => exact onward n
    | zero =>
      have there : pattern.ends ⟨asciiLower before, c.toLower :: asciiLower after⟩ = _ :=
        pattern.ends_asciiLower ⟨before, c :: after⟩
      rw [asciiLower_cons, eraseFrom, eraseFrom, there]
      cases pattern.ends ⟨before, c :: after⟩ with
      | nil => simp [onward]
      | cons e es =>
        simp only [List.map_cons, Place.after_asciiLower, List.length_cons, length_asciiLower,
          onward]
        split <;> simp

theorem erase_asciiLower (pattern : Pattern) (s : List Char) :
    pattern.erase (asciiLower s) = asciiLower (pattern.erase s) :=
  pattern.eraseFrom_asciiLower 0 [] s

end Pattern

end ContactSearch.Text
