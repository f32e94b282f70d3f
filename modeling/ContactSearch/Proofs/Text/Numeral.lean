import ContactSearch.Proofs.Number.Digits
import ContactSearch.Proofs.Text.Blanks
import ContactSearch.Text.Numeral
import ContactSearch.Text.Split

/-!
# Integers read back

The decimal text of an integer is read as that integer again, unless it has more digits than are
read at all. The same holds of integers in a list joined by commas: none of them holds a comma, so
splitting at the commas gives back the texts that were joined.
-/

namespace ContactSearch.Text

/-- An integer of no more digits than are read. -/
def IsShort (n : Int) : Prop :=
  (natText n.natAbs).length ≤ maxDigits

instance (n : Int) : Decidable (IsShort n) :=
  inferInstanceAs (Decidable (_ ≤ _))

/-! ## Digits -/

section Digits

variable {c : Char} {ds : List Char}

theorem toNat_of_isDigit (digit : c.isDigit = true) : 48 ≤ c.toNat ∧ c.toNat ≤ 57 :=
  Char.isDigit_iff_toNat.mp digit

theorem digitValue?_of_isDigit (digit : c.isDigit = true) : digitValue? c = some (c.toNat - 48) := by
  obtain ⟨above, below⟩ := toNat_of_isDigit digit
  have ascii : c.toNat < 128 := by omega
  simp [digitValue?, ascii, above, below]

theorem asciiDigit?_eq_some_iff {d : Nat} :
    asciiDigit? c = some d ↔ c.isDigit = true ∧ c.toNat - 48 = d := by
  have bounds : ('0' ≤ c ∧ c ≤ '9') ↔ c.isDigit = true := by
    rw [Char.isDigit, Bool.and_eq_true, decide_eq_true_eq, decide_eq_true_eq]
    exact Iff.rfl
  simp [asciiDigit?, bounds]

theorem asciiDigit?_of_isDigit (digit : c.isDigit = true) : asciiDigit? c = some (c.toNat - 48) :=
  asciiDigit?_eq_some_iff.mpr ⟨digit, rfl⟩

theorem digitsAfter_of_isDigit (digits : ∀ c ∈ ds, c.isDigit = true) :
    digitsAfter ds = some (ds.map fun c => c.toNat - 48) := by
  induction ds with
  | nil => rfl
  | cons c ds ih =>
    have digit := digits c List.mem_cons_self
    have notGap : c ≠ '_' := by
      rintro rfl
      cases digit
    rw [digitsAfter, digitValue?_of_isDigit digit,
      ih fun d member => digits d (List.mem_cons_of_mem c member)]
    · rfl
    · exact fun _ _ gap => absurd gap notGap

theorem readNat?_natText {n : Nat} (short : (natText n).length ≤ maxDigits) :
    readNat? (natText n) = some n := by
  have digits : ∀ c ∈ natText n, c.isDigit = true := fun c => isDigit_of_mem_natText
  have value : ofDigits ((natText n).map fun c => c.toNat - 48) = n := digitsValue_natText n
  have read : digits? (natText n) = some ((natText n).map fun c => c.toNat - 48) := by
    cases text : natText n with
    | nil => exact absurd text (natText_ne_nil n)
    | cons c ds =>
      rw [text] at digits
      rw [digits?, digitValue?_of_isDigit (digits c List.mem_cons_self),
        digitsAfter_of_isDigit fun d member => digits d (List.mem_cons_of_mem c member)]
      rfl
  rw [readNat?, read]
  simp only [Option.bind_eq_bind, Option.bind_some, List.length_map, if_pos short, value]

end Digits

/-! ## Integers -/

section Integers

variable {n : Int} {c : Char}

/-- The text of an integer is made of digits and perhaps a minus sign. -/
theorem isDigit_or_minus_of_mem_intText (member : c ∈ intText n) : c.isDigit = true ∨ c = '-' := by
  unfold intText at member
  split at member
  · rcases List.mem_cons.mp member with rfl | member
    · exact .inr rfl
    · exact .inl (isDigit_of_mem_natText member)
  · exact .inl (isDigit_of_mem_natText member)

theorem not_isSpace_of_mem_intText (member : c ∈ intText n) : isSpace c = false := by
  rcases isDigit_or_minus_of_mem_intText member with digit | rfl
  · obtain ⟨above, below⟩ := toNat_of_isDigit digit
    simp only [isSpace, Bool.or_eq_false_iff, Bool.and_eq_false_iff, decide_eq_false_iff_not,
      beq_eq_false_iff_ne]
    omega
  · decide

theorem readSigned?_intText (short : IsShort n) : readSigned? (intText n) = some n := by
  unfold intText
  split
  · rename_i negative
    rw [readSigned?, readNat?_natText short]
    show some (-(n.natAbs : Int)) = some n
    rw [Int.ofNat_natAbs_of_nonpos (Int.le_of_lt negative), Int.neg_neg]
  · rename_i positive
    have unsigned : ∀ s, natText n.natAbs ≠ '-' :: s ∧ natText n.natAbs ≠ '+' :: s := by
      intro s
      constructor <;>
      · intro text
        have digit := isDigit_of_mem_natText (text ▸ List.mem_cons_self)
        cases digit
    rw [readSigned?, readNat?_natText short]
    · rw [Option.map_some]
      exact congrArg some (Int.natAbs_of_nonneg (Int.not_lt.mp positive))
    · exact fun s => (unsigned s).1
    · exact fun s => (unsigned s).2

theorem readInt?_intText (short : IsShort n) : readInt? (intText n) = some n := by
  rw [readInt?, trimBy_eq_self (isTrimmed_of_none fun c => not_isSpace_of_mem_intText),
    readSigned?_intText short]

end Integers

/-! ## Lists joined by a separator -/

section Joined

variable {sep : Char}

theorem split_of_not_mem {part : List Char} (free : sep ∉ part) : split sep part = [part] := by
  induction part with
  | nil => rfl
  | cons c part ih =>
    obtain ⟨differs, free⟩ := not_or.mp (List.mem_cons.not.mp free)
    rw [split, if_neg (by simpa using Ne.symm differs), ih free]

theorem split_append {part : List Char} (free : sep ∉ part) (rest : List Char) :
    split sep (part ++ sep :: rest) = part :: split sep rest := by
  induction part with
  | nil => rw [List.nil_append, split, if_pos (beq_self_eq_true sep)]
  | cons c part ih =>
    obtain ⟨differs, free⟩ := not_or.mp (List.mem_cons.not.mp free)
    rw [List.cons_append, split, if_neg (by simpa using Ne.symm differs), ih free]

theorem split_intercalate {parts : List (List Char)} (some : parts ≠ [])
    (free : ∀ part ∈ parts, sep ∉ part) : split sep ([sep].intercalate parts) = parts := by
  induction parts with
  | nil => exact absurd rfl some
  | cons part parts ih =>
    have head := free part List.mem_cons_self
    cases parts with
    | nil => simpa using split_of_not_mem head
    | cons next parts =>
      rw [List.intercalate_cons_cons, List.append_assoc, List.singleton_append, split_append head,
        ih (List.cons_ne_nil next parts) fun p member => free p (List.mem_cons_of_mem part member)]

end Joined

theorem mapM_readInt?_intText {ns : List Int} (short : ∀ n ∈ ns, IsShort n) :
    (ns.map intText).mapM readInt? = some ns := by
  induction ns with
  | nil => rfl
  | cons n ns ih =>
    rw [List.map_cons, List.mapM_cons, readInt?_intText (short n List.mem_cons_self),
      ih fun m member => short m (List.mem_cons_of_mem n member)]
    rfl

/-- Integers joined by commas are read one by one. -/
theorem mapM_readInt?_split {ns : List Int} (some : ns ≠ []) (short : ∀ n ∈ ns, IsShort n) :
    (split ',' (",".intercalate (ns.map fun n => String.ofList (intText n))).toList).mapM readInt? =
      .some ns := by
  have free : ∀ part ∈ ns.map intText, ',' ∉ part := by
    intro part listed member
    obtain ⟨n, -, rfl⟩ := List.mem_map.mp listed
    rcases isDigit_or_minus_of_mem_intText member with digit | minus
    · cases digit
    · cases minus
  have joined : (",".intercalate (ns.map fun n => String.ofList (intText n))).toList =
      [','].intercalate (ns.map intText) := by
    rw [String.toList_intercalate, List.map_map]
    simp [Function.comp_def]
  rw [joined, split_intercalate (by simpa using some) free, mapM_readInt?_intText short]

end ContactSearch.Text
