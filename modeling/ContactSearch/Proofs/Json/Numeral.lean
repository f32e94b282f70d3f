import ContactSearch.Json.Writer
import ContactSearch.Proofs.Number.Decimal

/-!
# Written numbers are read back

A written number is read as itself wherever it stands, if nothing follows that could go on with it.
A written decimal is read as the number nearest to it, whichever notation it is written in.
-/

namespace ContactSearch

open Text (natText intText maxDigits)

namespace Json

/-- Starts with nothing that could go on with a number. -/
def EndsNumber (s : List Char) : Prop :=
  ∀ c, s.head? = some c → c.isDigit = false ∧ c ≠ '.' ∧ c ≠ 'e' ∧ c ≠ 'E'

/-- Starts with no digit. -/
def EndsDigits (s : List Char) : Prop :=
  ∀ c, s.head? = some c → c.isDigit = false

theorem endsNumber_nil : EndsNumber [] := by
  intro c head
  cases head

theorem endsNumber_cons {c : Char} (other : c.isDigit = false ∧ c ≠ '.' ∧ c ≠ 'e' ∧ c ≠ 'E')
    (s : List Char) : EndsNumber (c :: s) := by
  intro d head
  cases head
  exact other

theorem EndsNumber.endsDigits {s : List Char} (ends : EndsNumber s) : EndsDigits s :=
  fun c head => (ends c head).1

theorem endsDigits_cons {c : Char} {s : List Char} (other : c.isDigit = false) :
    EndsDigits (c :: s) := by
  intro d head
  cases head
  exact other

/-- A nonempty run of digits. -/
structure IsDigits (ds : List Char) : Prop where
  digits : ∀ c ∈ ds, c.isDigit = true
  nonempty : ds ≠ []

theorem isDigits_natText (n : Nat) : IsDigits (natText n) :=
  ⟨fun _ => isDigit_of_mem_natText, natText_ne_nil n⟩

theorem isDigit_of_mem_zeros {n : Nat} {c : Char} (member : c ∈ List.replicate n '0') :
    c.isDigit = true := by
  rw [List.eq_of_mem_replicate member]
  decide

theorem IsDigits.append {ds es : List Char} (first : IsDigits ds)
    (second : ∀ c ∈ es, c.isDigit = true) : IsDigits (ds ++ es) := by
  refine ⟨?_, List.append_ne_nil_of_left_ne_nil first.nonempty es⟩
  intro c member
  rcases List.mem_append.mp member with left | right
  · exact first.digits c left
  · exact second c right

/-! ## The parts of a number -/

theorem splitDigits_append {ds rest : List Char} (digits : ∀ c ∈ ds, c.isDigit = true)
    (ends : EndsDigits rest) : splitDigits (ds ++ rest) = (ds, rest) := by
  have stop : rest.takeWhile Char.isDigit = [] ∧ rest.dropWhile Char.isDigit = rest := by
    cases rest with
    | nil => exact ⟨rfl, rfl⟩
    | cons c more =>
      have other := ends c rfl
      simp [other]
  rw [splitDigits, List.takeWhile_append_of_pos digits, List.dropWhile_append_of_pos digits, stop.1,
    stop.2, List.append_nil]

theorem wholeDigits?_zero (rest : List Char) : wholeDigits? ('0' :: rest) = some (['0'], rest) :=
  rfl

theorem wholeDigits?_append {ds rest : List Char} (digits : IsDigits ds)
    (head : ds.head? ≠ some '0') (ends : EndsDigits rest) :
    wholeDigits? (ds ++ rest) = some (ds, rest) := by
  have split := splitDigits_append digits.digits ends
  obtain ⟨c, more, rfl⟩ := List.exists_cons_of_ne_nil digits.nonempty
  have other : c ≠ '0' := by
    rintro rfl
    exact head rfl
  rw [List.cons_append] at split ⊢
  rw [wholeDigits?, split]
  · rfl
  · rintro rest' same
    cases same
    exact other rfl

theorem fraction?_append {places rest : List Char} (digits : IsDigits places)
    (ends : EndsDigits rest) : fraction? ('.' :: (places ++ rest)) = some (places, rest) := by
  rw [fraction?, splitDigits_append digits.digits ends]
  simp [digits.nonempty]

theorem fraction?_of_ne {rest : List Char} (other : rest.head? ≠ some '.') :
    fraction? rest = none := by
  unfold fraction?
  split
  · exact absurd rfl other
  · rfl

theorem exponent?_of_ends {rest : List Char} (ends : EndsNumber rest) : exponent? rest = none := by
  unfold exponent?
  split
  · exact absurd rfl (ends 'e' rfl).2.2.1
  · exact absurd rfl (ends 'E' rfl).2.2.2
  · rfl

/-- The sign of an exponent. -/
def exponentSign (e : Int) : Char :=
  if e < 0 then '-' else '+'

theorem exponent?_append {ds rest : List Char} {e : Int} (digits : IsDigits ds)
    (value : digitsValue ds = e.natAbs) (ends : EndsDigits rest) :
    exponent? ('e' :: exponentSign e :: (ds ++ rest)) = some (e, rest) := by
  have nonempty : ds.isEmpty = false := by simpa using digits.nonempty
  rw [exponent?, exponentSign]
  split
  · next below =>
    have negated : -(e.natAbs : Int) = e := by omega
    rw [signedDigits?, splitDigits_append digits.digits ends]
    simp only [nonempty, value, negated, Bool.false_eq_true, if_false]
  · next above =>
    have kept : (e.natAbs : Int) = e := by omega
    rw [signedDigits?, splitDigits_append digits.digits ends]
    simp only [nonempty, value, kept, Bool.false_eq_true, if_false]

/-! ## Numbers without a sign -/

/-- The digits before the point of a number that reads as they are. -/
structure IsWhole (whole : List Char) : Prop extends IsDigits whole where
  head : whole.head? = some '0' → whole = ['0']

theorem IsWhole.wholeDigits? {whole rest : List Char} (is_whole : IsWhole whole)
    (ends : EndsDigits rest) : wholeDigits? (whole ++ rest) = some (whole, rest) := by
  by_cases zero : whole.head? = some '0'
  · rw [is_whole.head zero]
    exact wholeDigits?_zero rest
  · exact wholeDigits?_append is_whole.toIsDigits zero ends

theorem isWhole_natText (n : Nat) : IsWhole (natText n) := by
  refine ⟨isDigits_natText n, ?_⟩
  intro zero
  rcases Nat.eq_zero_or_pos n with rfl | pos
  · rfl
  · exact absurd zero (head?_natText_ne_zero pos)

theorem readUnsigned_whole {whole rest : List Char} (negative : Bool) (is_whole : IsWhole whole)
    (short : whole.length ≤ maxDigits) (ends : EndsNumber rest) :
    readUnsigned negative (whole ++ rest) =
      .ok (.int (if negative then -(digitsValue whole : Int) else digitsValue whole), rest) := by
  have no_fraction : fraction? rest = none := by
    apply fraction?_of_ne
    intro point
    exact (ends '.' point).2.1 rfl
  rw [readUnsigned, is_whole.wholeDigits? ends.endsDigits]
  simp only [no_fraction, Option.elim_none, exponent?_of_ends ends]
  rw [if_neg (Nat.not_lt.mpr short)]

theorem readUnsigned_point {whole places rest : List Char} (negative : Bool)
    (is_whole : IsWhole whole) (digits : IsDigits places) (ends : EndsNumber rest) :
    readUnsigned negative (whole ++ '.' :: (places ++ rest)) =
      .ok (.real (Binary64.ofDecimal negative (digitsValue (whole ++ places))
        (-(places.length : Int))), rest) := by
  have fraction := fraction?_append digits ends.endsDigits
  rw [readUnsigned, is_whole.wholeDigits? (endsDigits_cons (by decide))]
  simp only [fraction, Option.elim_some, exponent?_of_ends ends, Option.elim_none, Int.zero_sub]

theorem readUnsigned_exponent {whole exponent rest : List Char} {e : Int} (negative : Bool)
    (is_whole : IsWhole whole) (digits : IsDigits exponent)
    (value : digitsValue exponent = e.natAbs) (ends : EndsDigits rest) :
    readUnsigned negative (whole ++ 'e' :: exponentSign e :: (exponent ++ rest)) =
      .ok (.real (Binary64.ofDecimal negative (digitsValue whole) e), rest) := by
  have no_fraction : fraction? ('e' :: exponentSign e :: (exponent ++ rest)) = none :=
    fraction?_of_ne (by intro point; cases point)
  have found := exponent?_append digits value ends
  rw [readUnsigned, is_whole.wholeDigits? (endsDigits_cons (by decide))]
  simp only [no_fraction, Option.elim_none, found, Option.elim_some, List.append_nil,
    List.length_nil, Nat.cast_zero, Int.sub_zero]

theorem readUnsigned_point_exponent {whole places exponent rest : List Char} {e : Int}
    (negative : Bool) (is_whole : IsWhole whole) (place_digits : IsDigits places)
    (digits : IsDigits exponent) (value : digitsValue exponent = e.natAbs)
    (ends : EndsDigits rest) :
    readUnsigned negative
        (whole ++ '.' :: (places ++ 'e' :: exponentSign e :: (exponent ++ rest))) =
      .ok (.real (Binary64.ofDecimal negative (digitsValue (whole ++ places))
        (e - places.length)), rest) := by
  have stop : EndsDigits ('e' :: exponentSign e :: (exponent ++ rest)) :=
    endsDigits_cons (by decide)
  have fraction := fraction?_append place_digits stop
  have found := exponent?_append digits value ends
  rw [readUnsigned, is_whole.wholeDigits? (endsDigits_cons (by decide))]
  simp only [fraction, Option.elim_some, found]

/-! ## Decimals -/

/-- Digits with no zero in front are the whole part of a number, together with what follows. -/
theorem isWhole_of_head {ds es : List Char} (digits : IsDigits ds) (head : ds.head? ≠ some '0')
    (more : ∀ c ∈ es, c.isDigit = true) : IsWhole (ds ++ es) := by
  refine ⟨digits.append more, ?_⟩
  intro zero
  rw [List.head?_append, List.head?_eq_some_head digits.nonempty, Option.some_or,
    ← List.head?_eq_some_head digits.nonempty] at zero
  exact absurd zero head

theorem isWhole_zero : IsWhole ['0'] := by
  refine ⟨⟨?_, List.cons_ne_nil _ _⟩, fun _ => rfl⟩
  intro c member
  rw [List.mem_singleton.mp member]
  rfl

/-- Positional notation with the point in front of all digits. -/
theorem readUnsigned_positional_front {ds rest : List Char} {point : Int} (negative : Bool)
    (digits : IsDigits ds) (front : point ≤ 0) (ends : EndsNumber rest) :
    readUnsigned negative (NumberFormat.positional ds point ++ rest) =
      .ok (.real (Binary64.ofDecimal negative (digitsValue ds) (point - ds.length)), rest) := by
  have places : IsDigits (List.replicate (-point).toNat '0' ++ ds) := by
    refine ⟨?_, List.append_ne_nil_of_right_ne_nil _ digits.nonempty⟩
    intro c member
    rcases List.mem_append.mp member with zero | digit
    · exact isDigit_of_mem_zeros zero
    · exact digits.digits c digit
  have text : NumberFormat.positional ds point ++ rest =
      ['0'] ++ '.' :: ((List.replicate (-point).toNat '0' ++ ds) ++ rest) := by
    rw [NumberFormat.positional, if_pos front]
    simp
  have value : digitsValue (['0'] ++ (List.replicate (-point).toNat '0' ++ ds)) =
      digitsValue ds := by
    rw [List.singleton_append, digitsValue_cons_zero, digitsValue_zeros_append]
  have power : -((List.replicate (-point).toNat '0' ++ ds).length : Int) = point - ds.length := by
    rw [List.length_append, List.length_replicate]
    omega
  rw [text, readUnsigned_point negative isWhole_zero places ends, value, power]

/-- Positional notation with a digit in front of the point. -/
theorem readUnsigned_positional_back {ds rest : List Char} {point : Int} (negative : Bool)
    (digits : IsDigits ds) (head : ds.head? ≠ some '0') (back : 0 < point)
    (ends : EndsNumber rest) :
    readUnsigned negative (NumberFormat.positional ds point ++ rest) =
      .ok (.real (Binary64.ofDecimal negative (digitsValue ds) (point - ds.length)), rest) := by
  obtain ⟨whole, rfl⟩ : ∃ whole : Nat, point = whole := ⟨point.toNat, by omega⟩
  rw [NumberFormat.positional, if_neg (Int.not_le.mpr back)]
  simp only [Int.toNat_natCast]
  rcases Nat.lt_or_ge whole ds.length with inside | beyond
  · have front : IsDigits (ds.take whole) := by
      refine ⟨fun c member => digits.digits c (List.mem_of_mem_take member), ?_⟩
      apply List.ne_nil_of_length_pos
      rw [List.length_take]
      omega
    have places : IsDigits (ds.drop whole) := by
      refine ⟨fun c member => digits.digits c (List.mem_of_mem_drop member), ?_⟩
      apply List.ne_nil_of_length_pos
      rw [List.length_drop]
      omega
    have front_head : (ds.take whole).head? ≠ some '0' := by
      rwa [List.head?_take, if_neg (by omega)]
    have text : ds.take whole ++ List.replicate (whole - ds.length) '0' ++ ['.'] ++
        (if (ds.drop whole).isEmpty then ['0'] else ds.drop whole) ++ rest =
          ds.take whole ++ [] ++ '.' :: (ds.drop whole ++ rest) := by
      rw [if_neg (by simpa using places.nonempty), Nat.sub_eq_zero_of_le inside.le]
      simp
    have power : -((ds.drop whole).length : Int) = whole - ds.length := by
      rw [List.length_drop]
      omega
    rw [text, readUnsigned_point negative (isWhole_of_head front front_head (by simp)) places ends,
      List.append_nil, List.take_append_drop, power]
  · have zeros : ∀ c ∈ List.replicate (whole - ds.length) '0', c.isDigit = true :=
      fun c => isDigit_of_mem_zeros
    have text : ds.take whole ++ List.replicate (whole - ds.length) '0' ++ ['.'] ++
        (if (ds.drop whole).isEmpty then ['0'] else ds.drop whole) ++ rest =
          ds ++ List.replicate (whole - ds.length) '0' ++ '.' :: (['0'] ++ rest) := by
      rw [List.take_of_length_le beyond, List.drop_of_length_le beyond]
      simp
    have value : digitsValue (ds ++ List.replicate (whole - ds.length) '0' ++ ['0']) =
        digitsValue ds * 10 ^ (whole - ds.length + 1) := by
      rw [List.append_assoc, ← List.replicate_succ', digitsValue_append_zeros]
    have power : (-((['0'].length : Nat) : Int)) + ((whole - ds.length + 1 : Nat) : Int) =
        whole - ds.length := by
      simp only [List.length_singleton]
      omega
    rw [text, readUnsigned_point negative (isWhole_of_head digits head zeros)
      isWhole_zero.toIsDigits ends, value, Binary64.ofDecimal_mul_pow, power]

theorem digitsValue_padded (width : Nat) (ds : List Char) :
    digitsValue (NumberFormat.padded width ds) = digitsValue ds :=
  digitsValue_zeros_append _ _

theorem isDigits_padded {ds : List Char} (width : Nat) (digits : IsDigits ds) :
    IsDigits (NumberFormat.padded width ds) := by
  refine ⟨?_, List.append_ne_nil_of_right_ne_nil _ digits.nonempty⟩
  intro c member
  rcases List.mem_append.mp member with zero | digit
  · exact isDigit_of_mem_zeros zero
  · exact digits.digits c digit

/-- Notation with an exponent. -/
theorem readUnsigned_scientific {ds rest : List Char} (width : Nat) (point : Int) (negative : Bool)
    (digits : IsDigits ds) (head : ds.head? ≠ some '0') (ends : EndsNumber rest) :
    readUnsigned negative (NumberFormat.scientific width ds point ++ rest) =
      .ok (.real (Binary64.ofDecimal negative (digitsValue ds) (point - ds.length)), rest) := by
  have exponent := isDigits_padded width (isDigits_natText (point - 1).natAbs)
  have value : digitsValue (NumberFormat.padded width (natText (point - 1).natAbs)) =
      (point - 1).natAbs := by
    rw [digitsValue_padded, digitsValue_natText]
  obtain ⟨d, more, rfl⟩ := List.exists_cons_of_ne_nil digits.nonempty
  have whole : IsWhole [d] := by
    refine ⟨⟨?_, List.cons_ne_nil _ _⟩, ?_⟩
    · intro c member
      rw [List.mem_singleton.mp member]
      exact digits.digits d (List.mem_cons_self)
    · intro zero
      exact absurd zero head
  cases more with
  | nil =>
    have text : NumberFormat.scientific width [d] point ++ rest =
        [d] ++ 'e' :: exponentSign (point - 1) ::
          (NumberFormat.padded width (natText (point - 1).natAbs) ++ rest) := by
      simp [NumberFormat.scientific, exponentSign]
    rw [text, readUnsigned_exponent negative whole exponent value ends.endsDigits]
    rfl
  | cons d' more =>
    have places : IsDigits (d' :: more) :=
      ⟨fun c member => digits.digits c (List.mem_cons_of_mem _ member), List.cons_ne_nil _ _⟩
    have text : NumberFormat.scientific width (d :: d' :: more) point ++ rest =
        [d] ++ '.' :: ((d' :: more) ++ 'e' :: exponentSign (point - 1) ::
          (NumberFormat.padded width (natText (point - 1).natAbs) ++ rest)) := by
      simp [NumberFormat.scientific, exponentSign]
    have power : point - 1 - ((d' :: more).length : Int) = point - (d :: d' :: more).length := by
      simp only [List.length_cons]
      omega
    rw [text, readUnsigned_point_exponent negative whole places exponent value ends.endsDigits,
      power]
    rfl

/-- A written decimal is read as the number nearest to it. -/
theorem readUnsigned_decimal {d : Decimal} {rest : List Char} (f : NumberFormat) (negative : Bool)
    (pos : 0 < d.digits) (ends : EndsNumber rest) :
    readUnsigned negative (f.decimal d ++ rest) =
      .ok (.real (Binary64.ofDecimal negative d.digits d.power), rest) := by
  obtain ⟨zeros, significant⟩ := NumberFormat.exists_isSignificant pos
  have digits : IsDigits (NumberFormat.significant d.digits) :=
    ⟨significant.digits, significant.nonempty⟩
  have moved : Binary64.ofDecimal negative (digitsValue (NumberFormat.significant d.digits))
      ((natText d.digits).length + d.power - (NumberFormat.significant d.digits).length) =
        Binary64.ofDecimal negative d.digits d.power := by
    have length : (natText d.digits).length =
        (NumberFormat.significant d.digits).length + zeros := by
      have := congrArg List.length significant.text
      rwa [List.length_append, List.length_replicate] at this
    have power : ((natText d.digits).length : Int) + d.power -
        (NumberFormat.significant d.digits).length = d.power + zeros := by
      omega
    rw [power, ← Binary64.ofDecimal_mul_pow, significant.value]
  simp only [NumberFormat.decimal]
  rw [← moved]
  split
  · by_cases front : ((natText d.digits).length : Int) + d.power ≤ 0
    · exact readUnsigned_positional_front negative digits front ends
    · exact readUnsigned_positional_back negative digits significant.head (Int.not_le.mp front) ends
  · exact readUnsigned_scientific _ _ negative digits significant.head ends

/-! ## Constants and numbers with a sign -/

/-- A number without a sign starts with a digit. -/
theorem head_of_readUnsigned {negative : Bool} {s : List Char} {r : Json × List Char}
    (read : readUnsigned negative s = .ok r) : ∃ c more, s = c :: more ∧ c.isDigit = true := by
  cases found : wholeDigits? s with
  | none =>
    rw [readUnsigned, found] at read
    cases read
  | some parts =>
    unfold wholeDigits? at found
    split at found
    · exact ⟨'0', _, rfl, rfl⟩
    · cases s with
      | nil => cases found
      | cons c more =>
        refine ⟨c, more, rfl, ?_⟩
        by_contra other
        simp [splitDigits, other] at found

theorem readPlain_of_readUnsigned {s : List Char} {r : Json × List Char}
    (read : readUnsigned false s = .ok r) : readPlain s = .ok r := by
  obtain ⟨c, more, rfl, digit⟩ := head_of_readUnsigned read
  unfold readPlain
  split
  all_goals first
    | exact read
    | next same =>
      cases same
      cases digit

theorem readPlain_minus_of_readUnsigned {s : List Char} {r : Json × List Char}
    (read : readUnsigned true s = .ok r) : readPlain ('-' :: s) = .ok r := by
  obtain ⟨c, more, rfl, digit⟩ := head_of_readUnsigned read
  unfold readPlain
  split
  all_goals first
    | next same => cases same; done
    | next same => cases same; exact read
    | next same => cases same; cases digit
    | next other => exact absurd rfl (other _)

/-- A written integer is read as itself, if it is not too long. -/
theorem readPlain_intText {n : Int} {rest : List Char}
    (short : (natText n.natAbs).length ≤ maxDigits) (ends : EndsNumber rest) : readPlain (intText n ++ rest) = .ok (.int n, rest) := by
  have read := fun negative => readUnsigned_whole negative (isWhole_natText n.natAbs) short ends
  rw [intText]
  split
  · next below =>
    have same : -((digitsValue (natText n.natAbs) : Nat) : Int) = n := by
      rw [digitsValue_natText]
      omega
    rw [List.cons_append, readPlain_minus_of_readUnsigned (read true)]
    simp only [if_true, same]
  · next above =>
    have same : ((digitsValue (natText n.natAbs) : Nat) : Int) = n := by
      rw [digitsValue_natText]
      omega
    rw [readPlain_of_readUnsigned (read false)]
    simp only [Bool.false_eq_true, if_false, same]

/-- A written number of double precision is read as itself. -/
theorem readPlain_number {x : Binary64} {rest : List Char} (f : NumberFormat)
    (canonical : x.IsCanonical) (ends : EndsNumber rest) :
    readPlain (f.number x ++ rest) = .ok (.real x, rest) := by
  cases x with
  | nan => rfl
  | infinite negative => cases negative <;> rfl
  | finite negative m e =>
    have magnitude : readUnsigned negative
        ((if m = 0 then "0.0".toList else f.decimal (Binary64.shortest m e)) ++ rest) =
          .ok (.real (.finite negative m e), rest) := by
      rcases Nat.eq_zero_or_pos m with rfl | pos
      · have least : e = -1074 := by
          rcases canonical.full with full | least
          · omega
          · exact least
        rw [if_pos rfl, least]
        exact readUnsigned_point negative isWhole_zero isWhole_zero.toIsDigits ends
      · rw [if_neg pos.ne', readUnsigned_decimal f negative
          (Binary64.digits_shortest_pos canonical pos) ends,
          Binary64.ofDecimal_sign negative (Binary64.ofDecimal_shortest canonical pos)]
    cases negative with
    | false => exact readPlain_of_readUnsigned magnitude
    | true => exact readPlain_minus_of_readUnsigned magnitude

end Json

end ContactSearch
