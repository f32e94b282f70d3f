import ContactSearch.Proofs.Json.RoundTrip

/-!
# Octets of JSON text

The text of an object starts with two ASCII characters. From these it is seen in which encoding its
octets are, with a mark in front or without one. So an object is read from the octets of its text as
it is from the text, whatever the encoding.
-/

namespace ContactSearch

namespace Json

open Text

/-! ## Detection -/

/-- The octet is that of an ASCII character other than the null character. -/
def IsAsciiOctet (x : UInt8) : Prop :=
  0 < x ∧ x < 0x80

instance : DecidablePred IsAsciiOctet :=
  fun x => inferInstanceAs (Decidable (0 < x ∧ x < 0x80))

/-- The text starts with two ASCII characters other than the null character. -/
def StartsAscii (s : List Char) : Prop :=
  ∃ a b rest, s = a :: b :: rest ∧ (0 < a.toNat ∧ a.toNat < 0x80) ∧ 0 < b.toNat ∧ b.toNat < 0x80

theorem isAsciiOctet_ofNat {n : Nat} (ascii : 0 < n ∧ n < 0x80) : IsAsciiOctet (UInt8.ofNat n) :=
  ⟨(Encoding.octet_lt_iff n (by decide) (by omega)).mpr ascii.1,
    (Encoding.octet_lt_iff 0x80 (by omega) (by decide)).mpr ascii.2⟩

theorem IsAsciiOctet.ne_zero {x : UInt8} (ascii : IsAsciiOctet x) : x ≠ 0 := by
  rintro rfl
  exact absurd ascii (by decide)

/-- The first octet of a mark is none of ASCII, but for the mark that starts with two zeros. -/
theorem not_marked_of_low {x : UInt8} {t : Octets} (low : x < 0x80)
    (zeros : x = 0 → ¬ [0x00, 0xFE, 0xFF] <+: t) : ∀ m ∈ marks, ¬ m.1 <+: x :: t := by
  intro m listed starts
  simp only [marks, List.mem_cons, List.not_mem_nil, or_false] at listed
  rcases listed with rfl | rfl | rfl | rfl | rfl <;>
    obtain ⟨rfl, rest⟩ := List.cons_prefix_cons.mp starts
  case inl => exact zeros rfl rest
  all_goals exact absurd low (by decide)

theorem detect_of_not_marked {s : Octets} (plain : ∀ m ∈ marks, ¬ m.1 <+: s) :
    detect s = (unmarked s, s) := by
  have none : (marks.find? fun m => m.1.isPrefixOf s) = none := by
    rw [List.find?_eq_none]
    intro m listed starts
    exact plain m listed (List.isPrefixOf_iff_prefix.mp starts)
  rw [detect, none]

section Detect

variable {x y : UInt8} (first : IsAsciiOctet x) (second : IsAsciiOctet y) (rest : Octets)

include first

theorem detect_of_ascii : detect (x :: rest) = (unmarked (x :: rest), x :: rest) :=
  detect_of_not_marked (not_marked_of_low first.2 fun zero => absurd zero first.ne_zero)

include second in
theorem detect_utf8 : detect (x :: y :: rest) = (.utf8, x :: y :: rest) := by
  have seen : unmarked (x :: y :: rest) = .utf8 := by
    unfold unmarked
    split
    · next same =>
      cases same
      rw [if_neg first.ne_zero, if_neg second.ne_zero]
    · next same =>
      cases same
      rw [if_neg first.ne_zero, if_neg second.ne_zero]
    · rfl
  rw [detect_of_ascii first, seen]

theorem detect_utf16_big :
    detect (0 :: x :: 0 :: y :: rest) = (.utf16 true, 0 :: x :: 0 :: y :: rest) := by
  have plain : ¬ [0x00, 0xFE, 0xFF] <+: x :: 0 :: y :: rest := fun starts =>
    first.ne_zero (List.cons_prefix_cons.mp starts).1.symm
  rw [detect_of_not_marked (not_marked_of_low (by decide) fun _ => plain), unmarked, if_pos rfl,
    if_neg first.ne_zero]

include second in
theorem detect_utf16_little :
    detect (x :: 0 :: y :: 0 :: rest) = (.utf16 false, x :: 0 :: y :: 0 :: rest) := by
  rw [detect_of_ascii first, unmarked, if_neg first.ne_zero, if_pos rfl,
    if_neg fun zeros => second.ne_zero zeros.1]

theorem detect_utf32_little :
    detect (x :: 0 :: 0 :: 0 :: rest) = (.utf32 false, x :: 0 :: 0 :: 0 :: rest) := by
  rw [detect_of_ascii first, unmarked, if_neg first.ne_zero, if_pos rfl, if_pos ⟨rfl, rfl⟩]

/-- The mark of one order of two octets is not taken for the start of one of four. -/
theorem detect_mark_utf16_little :
    detect (0xFF :: 0xFE :: x :: rest) = (.utf16 false, x :: rest) := by
  have longer : ([0xFF, 0xFE, 0x00, 0x00] : Octets).isPrefixOf (0xFF :: 0xFE :: x :: rest) =
      false := by
    rw [← Bool.not_eq_true, List.isPrefixOf_iff_prefix]
    intro starts
    simp only [List.cons_prefix_cons] at starts
    exact first.ne_zero starts.2.2.1.symm
  have found : (marks.find? fun m => m.1.isPrefixOf (0xFF :: 0xFE :: x :: rest)) =
      some ([0xFF, 0xFE], .utf16 false) := by
    rw [marks, List.find?_cons_of_neg (by simp), List.find?_cons_of_neg (by simp [longer])]
    rfl
  rw [detect, found]
  rfl

end Detect

theorem detect_utf32_big (x : UInt8) (rest : Octets) :
    detect (0 :: 0 :: 0 :: x :: rest) = (.utf32 true, 0 :: 0 :: 0 :: x :: rest) := rfl

/-! ## Octets of a text -/

/-- The octets of an ASCII character: one octet, with zeros beside it in the wider encodings. -/
def asciiOctets (x : UInt8) : Encoding → Octets
  | .utf8 => [x]
  | .utf16 true => [0, x]
  | .utf16 false => [x, 0]
  | .utf32 true => [0, 0, 0, x]
  | .utf32 false => [x, 0, 0, 0]

theorem encode_cons_of_ascii (e : Encoding) {c : Char} (ascii : c.toNat < 0x80) (s : List Char) :
    e.encode (c :: s) = asciiOctets (UInt8.ofNat c.toNat) e ++ e.encode s := by
  have low : c.toNat % 0x100 = c.toNat := by omega
  have zero : c.toNat / 0x100 % 0x100 = 0 ∧ c.toNat / 0x10000 % 0x100 = 0 ∧
      c.toNat / 0x1000000 % 0x100 = 0 := by
    omega
  have one : Encoding.utf8Octets c.toNat = [UInt8.ofNat c.toNat] := if_pos ascii
  cases e with
  | utf8 => simp [Encoding.encode, one, asciiOctets]
  | utf16 big =>
    cases big <;> simp [Encoding.encode, splitUnits_of_lt (show c.toNat < 0x10000 by omega),
      Encoding.wide_two, low, zero, asciiOctets]
  | utf32 big => cases big <;> simp [Encoding.encode, Encoding.wide_four, low, zero, asciiOctets]

variable {s : List Char}

/-- Without a mark, the encoding is seen from the first two characters. -/
theorem detect_encode (starts : StartsAscii s) (e : Encoding) :
    detect (e.encode s) = (e, e.encode s) := by
  obtain ⟨a, b, rest, rfl, ascii, ascii'⟩ := starts
  have first := isAsciiOctet_ofNat ascii
  have second := isAsciiOctet_ofNat ascii'
  rw [encode_cons_of_ascii e ascii.2, encode_cons_of_ascii e ascii'.2]
  cases e with
  | utf8 => exact detect_utf8 first second _
  | utf16 big =>
    cases big
    · exact detect_utf16_little first second _
    · exact detect_utf16_big first _
  | utf32 big =>
    cases big
    · exact detect_utf32_little first _
    · exact detect_utf32_big _ _

/-- The mark in front of a text is the character U+FEFF in the encoding of the text. -/
theorem detect_encode_mark (starts : StartsAscii s) (e : Encoding) :
    detect (e.encode ('\uFEFF' :: s)) = (e, e.encode s) := by
  obtain ⟨a, b, rest, rfl, ascii, -⟩ := starts
  have split : e.encode ('\uFEFF' :: a :: b :: rest) =
      e.encode ['\uFEFF'] ++ e.encode (a :: b :: rest) := by
    cases e <;> simp [Encoding.encode]
  rw [split]
  cases e with
  | utf8 => rfl
  | utf16 big =>
    cases big
    · rw [encode_cons_of_ascii _ ascii.2]
      exact detect_mark_utf16_little (isAsciiOctet_ofNat ascii) _
    · rfl
  | utf32 big => cases big <;> rfl

/-! ## Texts of objects -/

/-- A gap may stand in front of what is left when it is skipped. -/
theorem head_of_skipGap {c : Char} {t rest : List Char} (skipped : skipGap t = c :: rest) :
    ∃ d more, t = d :: more ∧
      (isGap d = true ∧ skipGap more = c :: rest ∨ d = c ∧ more = rest) := by
  cases t with
  | nil => cases skipped
  | cons d more =>
    refine ⟨d, more, rfl, ?_⟩
    by_cases gap : isGap d = true
    · rw [skipGap, List.dropWhile_cons_of_pos gap] at skipped
      exact .inl ⟨gap, skipped⟩
    · rw [skipGap, List.dropWhile_cons_of_neg gap] at skipped
      cases skipped
      exact .inr ⟨rfl, rfl⟩

theorem head_of_readPairs {room : Option Nat} {steps : Nat} {t rest : List Char}
    {pairs : List (String × Json)} (read : readPairs room steps t = .ok (pairs, rest)) : ∃ more, t = '"' :: more := by
  cases steps with
  | zero => cases read
  | succ steps =>
    unfold readPairs readKey at read
    split at read
    · cases read
    · next found =>
      split at found
      · exact ⟨_, rfl⟩
      · cases found

/-- An object is read from a brace and, behind a gap, another brace or a quote. -/
theorem head_of_readValue_object {room : Option Nat} {steps : Nat} {t rest : List Char}
    {fields : List (String × Json)} (read : readValue room steps t = .ok (.object fields, rest)) :
    ∃ more, t = '\x7b' :: more ∧ ∃ c later, skipGap more = c :: later ∧ (c = '\x7d' ∨ c = '"') := by
  cases steps with
  | zero => cases read
  | succ steps =>
    unfold readValue at read
    split at read
    · split at read <;> cases read
    · split at read
      · cases read
      · split at read
        · cases read
        · split at read <;> cases read
    · next more =>
      refine ⟨more, rfl, ?_⟩
      split at read
      · cases read
      · split at read
        · next skipped => exact ⟨_, _, skipped, .inl rfl⟩
        · split at read
          · next pairs =>
            obtain ⟨later, skipped⟩ := head_of_readPairs pairs
            exact ⟨_, _, skipped, .inr rfl⟩
          · cases read
    · exact (isPlain_of_readPlain read).elim

/-- The characters that stand in front of the first key of an object or of its end. -/
def OpensObject (c : Char) : Prop :=
  isGap c = true ∨ c = '\x7b' ∨ c = '\x7d' ∨ c = '"'

theorem OpensObject.ascii {c : Char} (opens : OpensObject c) : 0 < c.toNat ∧ c.toNat < 0x80 := by
  rcases opens with gap | rfl | rfl | rfl
  · simp only [isGap, Bool.or_eq_true, beq_iff_eq, or_assoc] at gap
    rcases gap with rfl | rfl | rfl | rfl <;> decide
  all_goals decide

/-- The text of an object starts with two ASCII characters. -/
theorem startsAscii_of_read {fields : List (String × Json)}
    (found : read s = .ok (.object fields)) : StartsAscii s := by
  have pair : ∃ a b rest, s = a :: b :: rest ∧ OpensObject a ∧ OpensObject b := by
    unfold read readWithin at found
    split at found
    · cases found
    · next value =>
      split at found <;> cases found
      obtain ⟨more, opened, c, later, next, ends⟩ := head_of_readValue_object value
      obtain ⟨a, behind, rfl, ⟨gap, again⟩ | ⟨rfl, rfl⟩⟩ := head_of_skipGap opened
      · obtain ⟨b, rest, rfl, ⟨gap', -⟩ | ⟨rfl, -⟩⟩ := head_of_skipGap again
        · exact ⟨a, b, rest, rfl, .inl gap, .inl gap'⟩
        · exact ⟨a, _, rest, rfl, .inl gap, .inr (.inl rfl)⟩
      · obtain ⟨b, rest, rfl, ⟨gap, -⟩ | ⟨rfl, -⟩⟩ := head_of_skipGap next
        · exact ⟨_, b, rest, rfl, .inr (.inl rfl), .inl gap⟩
        · exact ⟨_, b, rest, rfl, .inr (.inl rfl), .inr (.inr ends)⟩
  obtain ⟨a, b, rest, whole, first, second⟩ := pair
  exact ⟨a, b, rest, whole, first.ascii, second.ascii⟩

/-- An object is read from the octets of its text as from the text, with whatever room, in any
encoding, with a mark or without one. -/
theorem readOctetsWithin_encode {fields : List (String × Json)}
    (found : read s = .ok (.object fields)) (room : Option Nat) (e : Encoding) :
    readOctetsWithin room (e.encode s) = (readWithin room s).mapError .unreadable ∧
      readOctetsWithin room (e.encode ('\uFEFF' :: s)) =
        (readWithin room s).mapError .unreadable := by
  have starts := startsAscii_of_read found
  exact ⟨readOctetsWithin_of_detect (detect_encode starts e),
    readOctetsWithin_of_detect (detect_encode_mark starts e)⟩

end Json

end ContactSearch
