/-!
# Surrogate pairs

Code points beyond U+FFFF are written as a pair of units in data that counts in units of sixteen
bits. A unit of such a pair that stands alone is no character, yet text that is read may hold it. Each
of these units has a stand-in from the last plane, where no character is a letter, a digit or a blank
or has another case. Text with a unit that stands alone is torn: it can be compared and searched, but
there are no octets for it. A text that has stand-ins as characters of its own is not torn by them,
though once some other part of the data is torn they are taken for such units.
-/

namespace ContactSearch.Text

/-- The first unit of a pair. -/
def isHighSurrogate (n : Nat) : Bool :=
  0xD800 ≤ n && n ≤ 0xDBFF

/-- The second unit of a pair. -/
def isLowSurrogate (n : Nat) : Bool :=
  0xDC00 ≤ n && n ≤ 0xDFFF

/-- A unit of a pair. -/
def isSurrogate (n : Nat) : Bool :=
  isHighSurrogate n || isLowSurrogate n

/-- Stands for a unit that is no character. -/
def standIn (n : Nat) : Char :=
  Char.ofNat (0x100000 + n)

/-- The character may stand for a unit that is none. -/
def isStandIn (c : Char) : Bool :=
  0x10D800 ≤ c.toNat && c.toNat ≤ 0x10DFFF

/-- The character of a code point, or what stands for a unit that stands alone. -/
def ofCode (n : Nat) : Char :=
  if isSurrogate n then standIn n else Char.ofNat n

/-- The code point of a pair. -/
def joinPair (high low : Nat) : Nat :=
  0x10000 + (high - 0xD800) * 0x400 + (low - 0xDC00)

/-- The units of a code point. -/
def splitUnits (n : Nat) : List Nat :=
  if n < 0x10000 then [n]
  else [0xD800 + (n - 0x10000) / 0x400, 0xDC00 + (n - 0x10000) % 0x400]

/-- The characters of a sequence of units and code points. -/
def joinUnits : List Nat → List Char
  | [] => []
  | [n] => [ofCode n]
  | high :: low :: rest =>
    if isHighSurrogate high && isLowSurrogate low then
      Char.ofNat (joinPair high low) :: joinUnits rest
    else ofCode high :: joinUnits (low :: rest)

/-- A unit of a pair stands alone in a sequence of units and code points. -/
def hasLone : List Nat → Bool
  | [] => false
  | [n] => isSurrogate n
  | high :: low :: rest =>
    if isHighSurrogate high && isLowSurrogate low then hasLone rest
    else isSurrogate high || hasLone (low :: rest)

end ContactSearch.Text
