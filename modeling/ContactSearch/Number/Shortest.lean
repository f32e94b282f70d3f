import ContactSearch.Number.Binary64

/-!
# The shortest decimal text of a number

The decimal digits written for a number are the fewest that read back as that number, and of
those the nearest to its value. For each count of digits only the two neighbours of the value on
that decimal grid have to be tried.
-/

namespace ContactSearch

/-- The decimal number `digits * 10 ^ power`. -/
structure Decimal where
  digits : Nat
  power : Int
deriving Repr, DecidableEq

namespace Binary64

/-- How many places a ratio below one has to be moved to the left to reach one. -/
def placesBelowOne : Nat → Nat → Nat → Nat
  | 0, _, _ => 0
  | fuel + 1, num, den => if den ≤ num then 0 else placesBelowOne fuel (10 * num) den + 1

/-- The count of digits before the decimal point of a positive ratio; zero or negative below a
tenth. -/
def pointPosition (num den : Nat) : Int :=
  if den ≤ num then (Nat.toDigits 10 (num / den)).length
  else 1 - (placesBelowOne 400 num den : Int)

/-- The neighbours of a ratio among the decimals of some power, the nearer one first, and of two
equally near the one with an even last digit. -/
def neighbours (num den : Nat) (power : Int) : List Decimal :=
  let num := num * Nat.pow 10 (-power).toNat
  let den := den * Nat.pow 10 power.toNat
  let low := num / den
  if roundDiv num den = low then [⟨low, power⟩, ⟨low + 1, power⟩]
  else [⟨low + 1, power⟩, ⟨low, power⟩]

/-- The decimal that is a finite magnitude exactly. -/
def exactDecimal (mantissa : Nat) (exponent : Int) : Decimal :=
  if 0 ≤ exponent then ⟨mantissa * Nat.pow 2 exponent.toNat, 0⟩
  else ⟨mantissa * Nat.pow 5 (-exponent).toNat, exponent⟩

/-- The decimal reads back as this magnitude. -/
def readsBack (mantissa : Nat) (exponent : Int) (d : Decimal) : Bool :=
  ofDecimal false d.digits d.power == finite false mantissa exponent

/-- The decimals of one to seventeen digits next to a magnitude, fewer digits first. -/
def candidates (mantissa : Nat) (exponent : Int) : List Decimal :=
  let (num, den) := ratio mantissa exponent
  let point := pointPosition num den
  (List.range 17).flatMap fun (n : Nat) => neighbours num den (point - ((n : Int) + 1))

/-- The shortest decimal that reads back as a finite magnitude. -/
def shortest (mantissa : Nat) (exponent : Int) : Decimal :=
  ((candidates mantissa exponent).find? (readsBack mantissa exponent)).getD
    (exactDecimal mantissa exponent)

/-- A shortest decimal reads back as the number it was made from, unless it is the exact one. -/
theorem readsBack_shortest (m : Nat) (e : Int) :
    readsBack m e (shortest m e) = true ∨ shortest m e = exactDecimal m e := by
  unfold shortest
  cases h : (candidates m e).find? (readsBack m e) with
  | none => right; rfl
  | some d => left; exact List.find?_some h

end Binary64

end ContactSearch
