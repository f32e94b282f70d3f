import ContactSearch.Text.Blank
import ContactSearch.Text.Digit

/-!
# Integers in free text

An integer is an optional sign and digits of any script, with single underscores allowed between
digits and white space around the whole. At most 4300 digits are read.
-/

namespace ContactSearch.Text

/-- The longest integer that is read, in digits. -/
def maxDigits : Nat := 4300

/-- The digits that follow a digit; an underscore may stand between two of them. -/
def digitsAfter : List Char → Option (List Nat)
  | [] => some []
  | '_' :: c :: rest => do return (← digitValue? c) :: (← digitsAfter rest)
  | c :: rest => do return (← digitValue? c) :: (← digitsAfter rest)

/-- One digit or more, with single underscores between digits. -/
def digits? : List Char → Option (List Nat)
  | [] => none
  | c :: rest => do return (← digitValue? c) :: (← digitsAfter rest)

/-- A natural number of at most `maxDigits` digits. -/
def readNat? (s : List Char) : Option Nat := do
  let digits ← digits? s
  if digits.length ≤ maxDigits then some (ofDigits digits) else none

/-- A number with an optional sign. -/
def readSigned? : List Char → Option Int
  | '-' :: s => (readNat? s).map fun n => -(n : Int)
  | '+' :: s => (readNat? s).map Int.ofNat
  | s => (readNat? s).map Int.ofNat

/-- Reads an integer with white space around it. -/
def readInt? (s : List Char) : Option Int :=
  readSigned? (trimBy isSpace s)

end ContactSearch.Text
