import ContactSearch.Json.Value
import ContactSearch.Text.Blank
import ContactSearch.Text.Numeral
import ContactSearch.Wire.Issue

/-!
# Integers in data

An integer may be written as a JSON number, also one without a fraction in double precision, as a
truth value, or as text. Text is read as a plain decimal numeral; if it is none, it is first freed
of what may surround one: white space, a plus sign, leading zeros, zeros after a point, and single
underscores between digits.
-/

namespace ContactSearch.Wire

open Text

/-- The digits of a text, if it is not empty and holds nothing else. -/
def plainDigits? (s : List Char) : Option (List Nat) :=
  if s.isEmpty then none else s.mapM asciiDigit?

/-- A natural number without leading zeros. -/
def readPlainNat (s : List Char) : Except Cause Nat :=
  match plainDigits? s with
  | none => .error .unreadableInteger
  | some digits =>
    if digits.head? = some 0 ∧ 1 < digits.length then .error .unreadableInteger
    else if maxDigits < digits.length then .error .integerTooLong
    else .ok (ofDigits digits)

/-- A numeral with an optional minus sign. -/
def readPlain (s : List Char) : Except Cause Int :=
  match s with
  | '-' :: s => (readPlainNat s).map fun n => -(n : Int)
  | s => (readPlainNat s).map Int.ofNat

/-- The text after a plus sign at its start; a minus sign may not follow that. -/
def dropPlus? : List Char → Option (List Char)
  | '+' :: '-' :: _ => none
  | '+' :: s => some s
  | s => some s

/-- What is left of a text after the zeros and underscores at its start, given the one before. A
character is left before a point and at the end. -/
def dropZerosAfter? (last : Char) : List Char → Option (List Char)
  | [] => some [last]
  | c :: rest =>
    if c == '0' || c == '_' then dropZerosAfter? c rest
    else if (asciiDigit? c).isSome then some (c :: rest)
    else if c == '.' then some (last :: c :: rest)
    else none

/-- A text without the zeros at its start. It has to start with a digit or a minus sign, and after
a minus sign nothing is dropped. -/
def dropZeros? : List Char → Option (List Char)
  | [] => none
  | c :: rest =>
    if c == '0' then dropZerosAfter? c rest
    else if (asciiDigit? c).isSome || c == '-' then some (c :: rest)
    else none

/-- A text without a point and the zeros after it, of which there has to be one at least. -/
def dropPoint? (s : List Char) : Option (List Char) :=
  match s.dropWhile (· != '.') with
  | [] => some s
  | _ :: places =>
    if places.isEmpty || places.any (· != '0') then none else some (s.takeWhile (· != '.'))

/-- There are two underscores in a row. -/
def hasDoubleUnderscore : List Char → Bool
  | '_' :: '_' :: _ => true
  | _ :: rest => hasDoubleUnderscore rest
  | [] => false

/-- A text without its underscores, which have to stand singly and inside. -/
def dropUnderscores (s : List Char) : List Char :=
  if s.head? == some '_' || s.getLast? == some '_' || hasDoubleUnderscore s then s
  else s.filter (· != '_')

/-- A text freed of what may surround a numeral. -/
def bareNumeral? (s : List Char) : Option (List Char) := do
  let s ← dropPlus? (trimBy isSpace s)
  let s ← dropZeros? s
  return dropUnderscores (← dropPoint? s)

/-- An integer in text. -/
def integerOfText (s : List Char) : Except Cause Int :=
  match readPlain s with
  | .error .unreadableInteger =>
    match bareNumeral? s with
    | some s => readPlain s
    | none => .error .unreadableInteger
  | result => result

/-- Integers in double precision are taken below this bound. -/
def realBound : Nat := 0x8000000000000000

/-- An integer in double precision. -/
def integerOfReal (x : Binary64) : Except Cause Int :=
  match x with
  | .finite .. =>
    match x.toInt? with
    | none => .error .fractionalInteger
    | some n => if n.natAbs < realBound then .ok n else .error .integerTooLong
  | _ => .error .notFinite

/-- An integer in data. -/
def readInteger : Json → Except Cause Int
  | .int n => .ok n
  | .bool b => .ok (if b then 1 else 0)
  | .real x => integerOfReal x
  | .text s => integerOfText s.toList
  | _ => .error .notInteger

end ContactSearch.Wire
