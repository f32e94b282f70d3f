import ContactSearch.Text.Unit

/-!
# Text as octets

The three Unicode encodings, the wider two in either order of octets. Reading fails on octets
that encode nothing. A surrogate that stands alone encodes no character either; readers that
tolerate it take its stand-in.
-/

namespace ContactSearch.Text

/-- An octet sequence. -/
abbrev Octets := List UInt8

/-- A way to write characters as octets. -/
inductive Encoding where
  | utf8
  | utf16 (bigEndian : Bool)
  | utf32 (bigEndian : Bool)
deriving Repr, DecidableEq

namespace Encoding

/-- The octets of a code point in the encoding of one to four octets. -/
def utf8Octets (n : Nat) : Octets :=
  if n < 0x80 then [UInt8.ofNat n]
  else if n < 0x800 then [UInt8.ofNat (0xC0 + n / 0x40), UInt8.ofNat (0x80 + n % 0x40)]
  else if n < 0x10000 then
    [UInt8.ofNat (0xE0 + n / 0x1000), UInt8.ofNat (0x80 + n / 0x40 % 0x40),
      UInt8.ofNat (0x80 + n % 0x40)]
  else
    [UInt8.ofNat (0xF0 + n / 0x40000), UInt8.ofNat (0x80 + n / 0x1000 % 0x40),
      UInt8.ofNat (0x80 + n / 0x40 % 0x40), UInt8.ofNat (0x80 + n % 0x40)]

/-- A number as so many octets. -/
def wide (bigEndian : Bool) (width n : Nat) : Octets :=
  let little := (List.range width).map fun i => UInt8.ofNat (n / Nat.pow 256 i % 256)
  if bigEndian then little.reverse else little

/-- The octets of a text. -/
def encode : Encoding → List Char → Octets
  | utf8, s => s.flatMap fun c => utf8Octets c.toNat
  | utf16 big, s => s.flatMap fun c => (splitUnits c.toNat).flatMap (wide big 2)
  | utf32 big, s => s.flatMap fun c => wide big 4 c.toNat

/-- An octet that continues a code point. -/
def isContinuation (b : UInt8) : Bool :=
  0x80 ≤ b && b ≤ 0xBF

/-- The six bits that an octet continues a code point with. -/
def bits (b : UInt8) : Nat :=
  b.toNat % 0x40

/-- The code points of octets in the encoding of one to four octets. Overlong forms and numbers
beyond U+10FFFF are refused; surrogates are kept. -/
def utf8Codes? : Octets → Option (List Nat)
  | [] => some []
  | a :: rest =>
    if a < 0x80 then (utf8Codes? rest).map (a.toNat :: ·)
    else match rest with
      | [] => none
      | b :: rest =>
        if !isContinuation b then none
        else if 0xC2 ≤ a && a ≤ 0xDF then
          (utf8Codes? rest).map ((a.toNat % 0x20 * 0x40 + bits b) :: ·)
        else match rest with
          | [] => none
          | c :: rest =>
            if !isContinuation c then none
            else if 0xE0 ≤ a && a ≤ 0xEF then
              let n := a.toNat % 0x10 * 0x1000 + bits b * 0x40 + bits c
              if n < 0x800 then none else (utf8Codes? rest).map (n :: ·)
            else match rest with
              | [] => none
              | d :: rest =>
                if isContinuation d && 0xF0 ≤ a && a ≤ 0xF4 then
                  let n := a.toNat % 0x8 * 0x40000 + bits b * 0x1000 + bits c * 0x40 + bits d
                  if n < 0x10000 || 0x10FFFF < n then none else (utf8Codes? rest).map (n :: ·)
                else none

/-- The units of sixteen bits that octets stand for. -/
def units16? (bigEndian : Bool) : Octets → Option (List Nat)
  | [] => some []
  | [_] => none
  | a :: b :: rest =>
    let n := if bigEndian then a.toNat * 256 + b.toNat else b.toNat * 256 + a.toNat
    (units16? bigEndian rest).map (n :: ·)

/-- The code points that octets taken by four stand for. -/
def codes32? (bigEndian : Bool) : Octets → Option (List Nat)
  | [] => some []
  | a :: b :: c :: d :: rest =>
    let n :=
      if bigEndian then ((a.toNat * 256 + b.toNat) * 256 + c.toNat) * 256 + d.toNat
      else ((d.toNat * 256 + c.toNat) * 256 + b.toNat) * 256 + a.toNat
    if 0x10FFFF < n then none else (codes32? bigEndian rest).map (n :: ·)
  | _ => none

/-- Reads octets. A surrogate that stands alone is tolerated. -/
def decode? : Encoding → Octets → Option (List Char)
  | utf8, s => (utf8Codes? s).map (·.map ofCode)
  | utf16 big, s => (units16? big s).map joinUnits
  | utf32 big, s => (codes32? big s).map (·.map ofCode)

/-- Reads octets in the encoding of one to four octets and refuses surrogates. -/
def strictUtf8? (s : Octets) : Option (List Char) :=
  (utf8Codes? s).bind fun codes =>
    if codes.any isSurrogate then none else some (codes.map Char.ofNat)

/-- A surrogate stands alone in octets. -/
def isTorn : Encoding → Octets → Bool
  | utf8, s => (utf8Codes? s).any fun codes => codes.any isSurrogate
  | utf16 big, s => (units16? big s).any hasLone
  | utf32 big, s => (codes32? big s).any fun codes => codes.any isSurrogate

end Encoding

end ContactSearch.Text
