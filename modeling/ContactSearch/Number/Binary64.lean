/-!
# Numbers of double precision

A finite number is a sign, a whole mantissa and a power of two. Rounding is exact: a ratio of
natural numbers goes to the nearest number that can be represented, and from the middle between
two of them to the one with an even mantissa.
-/

namespace ContactSearch

/-- A number of double precision. A finite one has the value `mantissa * 2 ^ exponent`. -/
inductive Binary64 where
  | nan
  | infinite (negative : Bool)
  | finite (negative : Bool) (mantissa : Nat) (exponent : Int)
deriving Repr, DecidableEq

namespace Binary64

/-- The number of bits that a mantissa has when it is not small. -/
def precision : Nat := 53

/-- The least power of two. -/
def minExponent : Int := -1074

/-- The greatest power of two. -/
def maxExponent : Int := 971

/-- Zero with a sign. -/
def zero (negative : Bool) : Binary64 :=
  finite negative 0 minExponent

/-- The quotient, rounded to the nearest natural number and from the middle to the even one. -/
def roundDiv (num den : Nat) : Nat :=
  let q := num / den
  let twice := 2 * (num % den)
  if twice < den then q else if den < twice then q + 1 else if q % 2 = 0 then q else q + 1

/-- The ratio `num / den` times two to a power, as a ratio. -/
def scale (num den : Nat) (power : Int) : Nat × Nat :=
  (num * Nat.pow 2 power.toNat, den * Nat.pow 2 (-power).toNat)

/-- The power of two that is at most a positive ratio, while its double is more. -/
def floorLog2 (num den : Nat) : Int :=
  let guess : Int := (Nat.log2 num : Int) - Nat.log2 den
  let (a, b) := scale num den (-guess)
  if a < b then guess - 1 else guess

/-- The number nearest to a ratio of natural numbers. -/
def ofRatio (negative : Bool) (num den : Nat) : Binary64 :=
  if num = 0 then zero negative
  else
    let exponent := max (floorLog2 num den - (precision - 1)) minExponent
    let (a, b) := scale num den (-exponent)
    let m := roundDiv a b
    let (m, exponent) :=
      if m = Nat.pow 2 precision then (Nat.pow 2 (precision - 1), exponent + 1) else (m, exponent)
    if maxExponent < exponent then infinite negative else finite negative m exponent

/-- The number nearest to `digits * 10 ^ power`. Powers far outside the range are not computed. -/
def ofDecimal (negative : Bool) (digits : Nat) (power : Int) : Binary64 :=
  let width : Int := (Nat.toDigits 10 digits).length
  if digits = 0 then zero negative
  else if 310 < power + width then infinite negative
  else if power + width < -330 then zero negative
  else if 0 ≤ power then ofRatio negative (digits * Nat.pow 10 power.toNat) 1
  else ofRatio negative digits (Nat.pow 10 (-power).toNat)

/-- The number nearest to an integer. -/
def ofInt (n : Int) : Binary64 :=
  ofRatio (n < 0) n.natAbs 1

/-- The magnitude of a finite number as a ratio. -/
def ratio (mantissa : Nat) (exponent : Int) : Nat × Nat :=
  scale mantissa 1 exponent

/-- The integer that a number is, if it is one. -/
def toInt? : Binary64 → Option Int
  | finite negative m e =>
    let (num, den) := ratio m e
    if num % den = 0 then
      let n : Int := (num / den : Nat)
      some (if negative then -n else n)
    else none
  | _ => none

/-- Neither infinite nor something that is not a number. -/
def isFinite : Binary64 → Bool
  | finite .. => true
  | _ => false

/-- Not a zero of either sign. -/
def isNonzero : Binary64 → Bool
  | finite _ m _ => m != 0
  | _ => true

end Binary64

end ContactSearch
