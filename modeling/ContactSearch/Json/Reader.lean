import ContactSearch.Json.Value
import ContactSearch.Text.Numeral
import ContactSearch.Text.Unit

/-!
# Reading JSON

The reader takes JSON text with the additional constants `NaN`, `Infinity` and `-Infinity`. When
an object repeats a key, the last value counts and the first place is kept. Integers of more than
4300 digits are refused with an error of their own. Values may be nested as deeply as there is room
for: the reader goes into each array and object by a call of its own, and where no room is left for
one more the text is refused at its bracket, whatever may follow.
-/

namespace ContactSearch.Json

/-- The values that hold values. -/
inductive Compound where
  | array
  | object
deriving Repr, DecidableEq

/-- Why a text is not read. -/
inductive ReadError where
  | malformed
  | tooManyDigits
  /-- There is no room for the array or object that starts here. -/
  | tooDeep (c : Compound)
deriving Repr, DecidableEq

/-- The room that is left inside one more array or object, if there is room for it. A room is the
number of arrays and objects that may hold one another; none stands for any number. -/
def inside? : Option Nat → Option (Option Nat)
  | none => some none
  | some 0 => none
  | some (n + 1) => some (some n)

/-- What a part of the reader finds: a value and the text after it. -/
abbrev Read (α : Type) := Except ReadError (α × List Char)

/-- The four characters that may stand between tokens. -/
def isGap (c : Char) : Bool :=
  c == ' ' || c == '\t' || c == '\n' || c == '\r'

/-- The text after the gap at its start. -/
def skipGap (s : List Char) : List Char :=
  s.dropWhile isGap

/-! ## Strings -/

/-- The value of a hexadecimal digit. -/
def hexDigit? (c : Char) : Option Nat :=
  if '0' ≤ c ∧ c ≤ '9' then some (c.toNat - 48)
  else if 'a' ≤ c ∧ c ≤ 'f' then some (c.toNat - 87)
  else if 'A' ≤ c ∧ c ≤ 'F' then some (c.toNat - 55)
  else none

/-- The number of four hexadecimal digits. -/
def hex4? (a b c d : Char) : Option Nat := do
  return (((← hexDigit? a) * 16 + (← hexDigit? b)) * 16 + (← hexDigit? c)) * 16 + (← hexDigit? d)

/-- The code of a character after a backslash. -/
def escape? (c : Char) : Option Nat :=
  match c with
  | '"' => some 0x22
  | '\\' => some 0x5C
  | '/' => some 0x2F
  | 'b' => some 0x08
  | 'f' => some 0x0C
  | 'n' => some 0x0A
  | 'r' => some 0x0D
  | 't' => some 0x09
  | _ => none

/-- The codes of a string up to its closing quote, and the text after that. -/
def stringCodes? : List Char → Option (List Nat × List Char)
  | [] => none
  | '"' :: rest => some ([], rest)
  | '\\' :: 'u' :: a :: b :: c :: d :: rest => do
    let n ← hex4? a b c d
    let (more, rest) ← stringCodes? rest
    return (n :: more, rest)
  | '\\' :: c :: rest => do
    let n ← escape? c
    let (more, rest) ← stringCodes? rest
    return (n :: more, rest)
  | c :: rest =>
    if c.toNat < 0x20 then none
    else do
      let (more, rest) ← stringCodes? rest
      return (c.toNat :: more, rest)

/-- The codes of a whole text with those of its escapes, which stand in strings only. -/
def escapedCodes : List Char → List Nat
  | [] => []
  | '\\' :: 'u' :: a :: b :: c :: d :: rest => (hex4? a b c d).getD 0 :: escapedCodes rest
  | '\\' :: c :: rest => c.toNat :: escapedCodes rest
  | c :: rest => c.toNat :: escapedCodes rest

/-- An escape in the text stands for a unit that is no character. -/
def isTorn (s : List Char) : Bool :=
  Text.hasLone (escapedCodes s)

/-- A string after its opening quote. -/
def readString (s : List Char) : Read String :=
  match stringCodes? s with
  | some (codes, rest) => .ok (String.ofList (Text.joinUnits codes), rest)
  | none => .error .malformed

/-! ## Numbers -/

/-- The value of a run of ASCII digits. -/
def digitsValue (ds : List Char) : Nat :=
  Text.ofDigits (ds.map fun c => c.toNat - 48)

/-- A run of digits and the text after it. -/
def splitDigits (s : List Char) : List Char × List Char :=
  (s.takeWhile Char.isDigit, s.dropWhile Char.isDigit)

/-- The digits after a decimal point, if there are a point and digits. -/
def fraction? : List Char → Option (List Char × List Char)
  | '.' :: s => let (ds, rest) := splitDigits s; if ds.isEmpty then none else some (ds, rest)
  | _ => none

/-- The digits of an exponent with an optional sign. -/
def signedDigits? : List Char → Option (Int × List Char)
  | '-' :: s =>
    let (ds, rest) := splitDigits s
    if ds.isEmpty then none else some (-(digitsValue ds : Int), rest)
  | '+' :: s =>
    let (ds, rest) := splitDigits s
    if ds.isEmpty then none else some ((digitsValue ds : Int), rest)
  | s =>
    let (ds, rest) := splitDigits s
    if ds.isEmpty then none else some ((digitsValue ds : Int), rest)

/-- An exponent, if one follows. -/
def exponent? : List Char → Option (Int × List Char)
  | 'e' :: s => signedDigits? s
  | 'E' :: s => signedDigits? s
  | _ => none

/-- The digits before the point: one zero, or digits that do not start with zero. -/
def wholeDigits? : List Char → Option (List Char × List Char)
  | '0' :: rest => some (['0'], rest)
  | s => let (ds, rest) := splitDigits s; if ds.isEmpty then none else some (ds, rest)

/-- A number without its sign. -/
def readUnsigned (negative : Bool) (s : List Char) : Read Json :=
  match wholeDigits? s with
  | none => .error .malformed
  | some (whole, rest) =>
    match fraction? rest, exponent? ((fraction? rest).elim rest (·.2)) with
    | none, none =>
      if Text.maxDigits < whole.length then .error .tooManyDigits
      else
        let n : Int := digitsValue whole
        .ok (.int (if negative then -n else n), rest)
    | fraction, exponent =>
      let places := fraction.elim [] (·.1)
      let rest := exponent.elim (fraction.elim rest (·.2)) (·.2)
      let power := exponent.elim 0 (·.1) - (places.length : Int)
      .ok (.real (Binary64.ofDecimal negative (digitsValue (whole ++ places)) power), rest)

/-! ## Values -/

/-- A constant or a number. -/
def readPlain (s : List Char) : Read Json :=
  match s with
  | 'n' :: 'u' :: 'l' :: 'l' :: rest => .ok (.null, rest)
  | 't' :: 'r' :: 'u' :: 'e' :: rest => .ok (.bool true, rest)
  | 'f' :: 'a' :: 'l' :: 's' :: 'e' :: rest => .ok (.bool false, rest)
  | 'N' :: 'a' :: 'N' :: rest => .ok (.real .nan, rest)
  | 'I' :: 'n' :: 'f' :: 'i' :: 'n' :: 'i' :: 't' :: 'y' :: rest =>
    .ok (.real (.infinite false), rest)
  | '-' :: 'I' :: 'n' :: 'f' :: 'i' :: 'n' :: 'i' :: 't' :: 'y' :: rest =>
    .ok (.real (.infinite true), rest)
  | '-' :: rest => readUnsigned true rest
  | _ => readUnsigned false s

/-- The key of a pair, its colon and the gap after that. -/
def readKey : List Char → Read String
  | '"' :: rest =>
    match readString rest with
    | .error e => .error e
    | .ok (key, rest) =>
      match skipGap rest with
      | ':' :: rest => .ok (key, skipGap rest)
      | _ => .error .malformed
  | _ => .error .malformed

mutual

/-- A value at the start of the text. The arguments in front are the room for nested values and a
bound on the steps taken. -/
def readValue : Option Nat → Nat → List Char → Read Json
  | _, 0, _ => .error .malformed
  | room, steps + 1, s =>
    match s with
    | '"' :: rest =>
      match readString rest with
      | .ok (t, rest) => .ok (.text t, rest)
      | .error e => .error e
    | '[' :: rest =>
      match inside? room with
      | none => .error (.tooDeep .array)
      | some room =>
        match skipGap rest with
        | ']' :: rest => .ok (.array [], rest)
        | rest =>
          match readItems room steps rest with
          | .ok (items, rest) => .ok (.array items, rest)
          | .error e => .error e
    | '\x7b' :: rest =>
      match inside? room with
      | none => .error (.tooDeep .object)
      | some room =>
        match skipGap rest with
        | '\x7d' :: rest => .ok (.object [], rest)
        | rest =>
          match readPairs room steps rest with
          | .ok (pairs, rest) => .ok (.object (KeyedList.ofPairs pairs), rest)
          | .error e => .error e
    | s => readPlain s

/-- The items of an array from the first one on. -/
def readItems : Option Nat → Nat → List Char → Read (List Json)
  | _, 0, _ => .error .malformed
  | room, steps + 1, s =>
    match readValue room steps s with
    | .error e => .error e
    | .ok (item, rest) =>
      match skipGap rest with
      | ']' :: rest => .ok ([item], rest)
      | ',' :: rest =>
        match readItems room steps (skipGap rest) with
        | .ok (more, rest) => .ok (item :: more, rest)
        | .error e => .error e
      | _ => .error .malformed

/-- The pairs of an object from the first one on. -/
def readPairs : Option Nat → Nat → List Char → Read (List (String × Json))
  | _, 0, _ => .error .malformed
  | room, steps + 1, s =>
    match readKey s with
    | .error e => .error e
    | .ok (key, rest) =>
      match readValue room steps rest with
      | .error e => .error e
      | .ok (value, rest) =>
        match skipGap rest with
        | '\x7d' :: rest => .ok ([(key, value)], rest)
        | ',' :: rest =>
          match readPairs room steps (skipGap rest) with
          | .ok (more, rest) => .ok ((key, value) :: more, rest)
          | .error e => .error e
        | _ => .error .malformed

end

/-- Reads a text that holds one value, with room for so many values in one another. -/
def readWithin (room : Option Nat) (s : List Char) : Except ReadError Json :=
  match readValue room (2 * s.length + 2) (skipGap s) with
  | .error e => .error e
  | .ok (v, rest) => if (skipGap rest).isEmpty then .ok v else .error .malformed

/-- Reads a text that holds one value, however deeply it is nested. -/
def read (s : List Char) : Except ReadError Json :=
  readWithin none s

/-- The array or object that there is no room for when a text is read, if there is one. -/
def overflow? (room : Option Nat) (s : List Char) : Option Compound :=
  match readWithin room s with
  | .error (.tooDeep c) => some c
  | _ => none

/-- The room that a reader has where little of it is used for other calls. -/
def usualRoom : Option Nat := some 990

end ContactSearch.Json
