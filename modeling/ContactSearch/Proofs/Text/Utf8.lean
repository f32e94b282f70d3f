import ContactSearch.Proofs.Text.Unit
import ContactSearch.Text.Encoding

/-!
# Encoded texts are decoded

A text written as octets reads as that text, also by the reader that refuses surrogates.
-/

namespace ContactSearch.Text

namespace Encoding

/-- What the reader finds when this code point stands in front. -/
def withCode (n : Nat) (found : Option (List Nat)) : Option (List Nat) :=
  found.map (n :: ·)

theorem toNat_octet {n : Nat} (small : n < 256) : (UInt8.ofNat n).toNat = n :=
  UInt8.toNat_ofNat_of_lt' small

/-- An octet is compared as the number that it was made from. -/
theorem octet_lt_iff {n : Nat} (m : Nat) (small : n < 256) (bound : m < 256) :
    UInt8.ofNat n < UInt8.ofNat m ↔ n < m := by
  rw [UInt8.lt_iff_toNat_lt, toNat_octet small, toNat_octet bound]

theorem octet_between {n : Nat} (lo hi : Nat) (small : n < 256) (low : lo < 256)
    (high : hi < 256) :
    (UInt8.ofNat lo ≤ UInt8.ofNat n && UInt8.ofNat n ≤ UInt8.ofNat hi) =
      decide (lo ≤ n ∧ n ≤ hi) := by
  simp only [UInt8.le_iff_toNat_le, toNat_octet small, toNat_octet low, toNat_octet high,
    Bool.decide_and]

theorem isContinuation_octet {n : Nat} (small : n < 0x40) :
    isContinuation (UInt8.ofNat (0x80 + n)) = true := by
  exact (octet_between 0x80 0xBF (by omega) (by decide) (by decide)).trans (decide_eq_true (by omega))

theorem bits_octet {n : Nat} (small : n < 0x40) : bits (UInt8.ofNat (0x80 + n)) = n := by
  rw [bits, toNat_octet (by omega)]
  omega

theorem utf8Codes?_one {n : Nat} (small : n < 0x80) (rest : Octets) :
    utf8Codes? (UInt8.ofNat n :: rest) = withCode n (utf8Codes? rest) := by
  have octet := toNat_octet (n := n) (by omega)
  have ascii : UInt8.ofNat n < 0x80 := (octet_lt_iff 0x80 (by omega) (by decide)).mpr small
  rw [utf8Codes?.eq_def]
  simp only [ascii, if_true, octet, withCode]

theorem utf8Codes?_two {a b : Nat} (front : 2 ≤ a) (small : a < 0x20) (low : b < 0x40)
    (rest : Octets) :
    utf8Codes? (UInt8.ofNat (0xC0 + a) :: UInt8.ofNat (0x80 + b) :: rest) =
      withCode (a * 0x40 + b) (utf8Codes? rest) := by
  have octet := toNat_octet (n := 0xC0 + a) (by omega)
  have ascii : ¬ UInt8.ofNat (0xC0 + a) < 0x80 :=
    mt (octet_lt_iff 0x80 (by omega) (by decide)).mp (by omega)
  have two : (0xC2 ≤ UInt8.ofNat (0xC0 + a) && UInt8.ofNat (0xC0 + a) ≤ 0xDF) = true :=
    (octet_between 0xC2 0xDF (by omega) (by decide) (by decide)).trans (decide_eq_true (by omega))
  have value : (0xC0 + a) % 0x20 * 0x40 + b = a * 0x40 + b := by omega
  rw [utf8Codes?.eq_def]
  simp only [ascii, if_false, isContinuation_octet low, Bool.not_true, Bool.false_eq_true, two,
    if_true, octet, bits_octet low, value, withCode]

theorem utf8Codes?_three {a b c : Nat} (small : a < 0x10) (middle : b < 0x40) (low : c < 0x40)
    (enough : 0x800 ≤ a * 0x1000 + b * 0x40 + c) (rest : Octets) :
    utf8Codes? (UInt8.ofNat (0xE0 + a) :: UInt8.ofNat (0x80 + b) :: UInt8.ofNat (0x80 + c) :: rest) =
      withCode (a * 0x1000 + b * 0x40 + c) (utf8Codes? rest) := by
  have octet := toNat_octet (n := 0xE0 + a) (by omega)
  have ascii : ¬ UInt8.ofNat (0xE0 + a) < 0x80 :=
    mt (octet_lt_iff 0x80 (by omega) (by decide)).mp (by omega)
  have two : (0xC2 ≤ UInt8.ofNat (0xE0 + a) && UInt8.ofNat (0xE0 + a) ≤ 0xDF) = false :=
    (octet_between 0xC2 0xDF (by omega) (by decide) (by decide)).trans (decide_eq_false (by omega))
  have three : (0xE0 ≤ UInt8.ofNat (0xE0 + a) && UInt8.ofNat (0xE0 + a) ≤ 0xEF) = true :=
    (octet_between 0xE0 0xEF (by omega) (by decide) (by decide)).trans (decide_eq_true (by omega))
  have value : (0xE0 + a) % 0x10 * 0x1000 + b * 0x40 + c = a * 0x1000 + b * 0x40 + c := by omega
  rw [utf8Codes?.eq_def]
  simp only [ascii, if_false, isContinuation_octet middle, isContinuation_octet low, Bool.not_true,
    Bool.false_eq_true, two, three, if_true, octet, bits_octet middle, bits_octet low, value,
    if_neg (Nat.not_lt.mpr enough), withCode]

theorem utf8Codes?_four {a b c d : Nat} (small : a < 0x5) (high : b < 0x40) (middle : c < 0x40)
    (low : d < 0x40) (enough : 0x10000 ≤ a * 0x40000 + b * 0x1000 + c * 0x40 + d)
    (valid : a * 0x40000 + b * 0x1000 + c * 0x40 + d ≤ 0x10FFFF) (rest : Octets) :
    utf8Codes? (UInt8.ofNat (0xF0 + a) :: UInt8.ofNat (0x80 + b) :: UInt8.ofNat (0x80 + c) ::
        UInt8.ofNat (0x80 + d) :: rest) =
      withCode (a * 0x40000 + b * 0x1000 + c * 0x40 + d) (utf8Codes? rest) := by
  have octet := toNat_octet (n := 0xF0 + a) (by omega)
  have ascii : ¬ UInt8.ofNat (0xF0 + a) < 0x80 :=
    mt (octet_lt_iff 0x80 (by omega) (by decide)).mp (by omega)
  have two : (0xC2 ≤ UInt8.ofNat (0xF0 + a) && UInt8.ofNat (0xF0 + a) ≤ 0xDF) = false :=
    (octet_between 0xC2 0xDF (by omega) (by decide) (by decide)).trans (decide_eq_false (by omega))
  have three : (0xE0 ≤ UInt8.ofNat (0xF0 + a) && UInt8.ofNat (0xF0 + a) ≤ 0xEF) = false :=
    (octet_between 0xE0 0xEF (by omega) (by decide) (by decide)).trans (decide_eq_false (by omega))
  have four : (0xF0 ≤ UInt8.ofNat (0xF0 + a) && UInt8.ofNat (0xF0 + a) ≤ 0xF4) = true :=
    (octet_between 0xF0 0xF4 (by omega) (by decide) (by decide)).trans (decide_eq_true (by omega))
  have value : (0xF0 + a) % 0x8 * 0x40000 + b * 0x1000 + c * 0x40 + d =
      a * 0x40000 + b * 0x1000 + c * 0x40 + d := by
    omega
  have fits : ¬ (a * 0x40000 + b * 0x1000 + c * 0x40 + d < 0x10000 ||
      0x10FFFF < a * 0x40000 + b * 0x1000 + c * 0x40 + d) = true := by
    simp only [Bool.or_eq_true, decide_eq_true_eq]
    omega
  rw [utf8Codes?.eq_def]
  simp only [ascii, if_false, isContinuation_octet high, isContinuation_octet middle,
    isContinuation_octet low, Bool.not_true, Bool.false_eq_true, two, three, Bool.true_and, four,
    if_true, octet, bits_octet high, bits_octet middle, bits_octet low, value, if_neg fits, withCode]

/-- A code point in front is read first. -/
theorem utf8Codes?_append {n : Nat} (valid : n < 0x110000) (rest : Octets) :
    utf8Codes? (utf8Octets n ++ rest) = withCode n (utf8Codes? rest) := by
  unfold utf8Octets
  split
  · next small => exact utf8Codes?_one small rest
  · split
    · next one two =>
      have read := utf8Codes?_two (a := n / 0x40) (b := n % 0x40) (by omega) (by omega) (by omega)
        rest
      rwa [show n / 0x40 * 0x40 + n % 0x40 = n by omega] at read
    · split
      · next one two three =>
        have value : n / 0x1000 * 0x1000 + n / 0x40 % 0x40 * 0x40 + n % 0x40 = n := by omega
        have read := utf8Codes?_three (a := n / 0x1000) (b := n / 0x40 % 0x40) (c := n % 0x40)
          (by omega) (by omega) (by omega) (by omega) rest
        rwa [value] at read
      · next one two three =>
        have value : n / 0x40000 * 0x40000 + n / 0x1000 % 0x40 * 0x1000 + n / 0x40 % 0x40 * 0x40 +
            n % 0x40 = n := by
          omega
        have read := utf8Codes?_four (a := n / 0x40000) (b := n / 0x1000 % 0x40)
          (c := n / 0x40 % 0x40) (d := n % 0x40) (by omega) (by omega) (by omega) (by omega)
          (by omega) (by omega) rest
        rwa [value] at read

theorem utf8Codes?_encode (s : List Char) :
    utf8Codes? (utf8.encode s) = some (s.map Char.toNat) := by
  induction s with
  | nil => rfl
  | cons c s ih =>
    have split : utf8.encode (c :: s) = utf8Octets c.toNat ++ utf8.encode s := rfl
    rw [split, utf8Codes?_append (toNat_lt c), ih]
    rfl

/-- What is written as octets is read. -/
theorem strictUtf8?_encode (s : List Char) : strictUtf8? (utf8.encode s) = some s := by
  rw [strictUtf8?, utf8Codes?_encode, Option.bind_some, any_isSurrogate_toNat, if_neg Bool.false_ne_true,
    List.map_map]
  refine congrArg some ?_
  exact (List.map_congr_left fun c _ => Char.ofNat_toNat c).trans (List.map_id s)

/-- A text holds no surrogate that would have to be tolerated. -/
theorem decode?_encode_utf8 (s : List Char) : utf8.decode? (utf8.encode s) = some s := by
  rw [decode?, utf8Codes?_encode, Option.map_some, List.map_map]
  refine congrArg some ?_
  exact (List.map_congr_left fun c _ => ofCode_toNat c).trans (List.map_id s)

end Encoding

end ContactSearch.Text
