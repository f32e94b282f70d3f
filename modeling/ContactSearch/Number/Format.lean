import ContactSearch.Number.Shortest
import ContactSearch.Text.Digit

/-!
# Written numbers

How a number of double precision is written in data: by its shortest digits, with a point and at
least one digit on either side of it, or, when the point would be far off, with an exponent of at
least two digits.
-/

namespace ContactSearch

/-- Where positional notation ends. -/
structure NumberFormat where
  /-- The least position of the point that is still written out. -/
  leastPoint : Int
  /-- The greatest position of the point that is still written out. -/
  greatestPoint : Int
  /-- The least count of digits in an exponent. -/
  exponentDigits : Nat
deriving Repr

namespace NumberFormat

/-- Numbers in data are written out from 0.0001 to below 10^16. -/
def data : NumberFormat :=
  ⟨-3, 16, 2⟩

/-- Significant digits without the zeros at their end. -/
def significant (digits : Nat) : List Char :=
  ((Text.natText digits).reverse.dropWhile (· == '0')).reverse

/-- Digits with zeros in front, up to a width. -/
def padded (width : Nat) (digits : List Char) : List Char :=
  List.replicate (width - digits.length) '0' ++ digits

/-- Positional notation of digits whose point lies at a position. -/
def positional (digits : List Char) (point : Int) : List Char :=
  if point ≤ 0 then ['0', '.'] ++ List.replicate (-point).toNat '0' ++ digits
  else
    let whole := point.toNat
    let front := digits.take whole
    let back := digits.drop whole
    front ++ List.replicate (whole - digits.length) '0' ++ ['.'] ++
      if back.isEmpty then ['0'] else back

/-- Notation with an exponent. -/
def scientific (exponentDigits : Nat) (digits : List Char) (point : Int) : List Char :=
  let exponent := point - 1
  let front := match digits with
    | [] => []
    | [d] => [d]
    | d :: more => d :: '.' :: more
  front ++ ['e', if exponent < 0 then '-' else '+'] ++
    padded exponentDigits (Text.natText exponent.natAbs)

/-- Writes a positive decimal. -/
def decimal (f : NumberFormat) (d : Decimal) : List Char :=
  let point : Int := (Text.natText d.digits).length + d.power
  let digits := significant d.digits
  if f.leastPoint ≤ point ∧ point ≤ f.greatestPoint then positional digits point
  else scientific f.exponentDigits digits point

/-- Writes a number. -/
def number (f : NumberFormat) : Binary64 → List Char
  | .nan => "NaN".toList
  | .infinite negative => (if negative then ['-'] else []) ++ "Infinity".toList
  | .finite negative m e =>
    (if negative then ['-'] else []) ++
      if m = 0 then "0.0".toList else f.decimal (Binary64.shortest m e)

end NumberFormat

end ContactSearch
