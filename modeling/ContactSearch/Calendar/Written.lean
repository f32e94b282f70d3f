import ContactSearch.Calendar.Timestamp
import ContactSearch.Number.Binary64
import ContactSearch.Number.Format
import ContactSearch.Text.Digit

/-!
# Written timestamps

The written form is `YYYY-MM-DDTHH:MM:SS`, then six decimals unless they are all zero, then `Z` or
an offset `+HH:MM` if the offset is known. The reader takes this form with some freedom, and
numbers as well: seconds since 1970-01-01, or milliseconds when the number is large.
-/

namespace ContactSearch.Calendar

open Text

/-! ## Writing -/

/-- A number with zeros in front, up to a width. -/
def paddedText (width n : Nat) : List Char :=
  NumberFormat.padded width (natText n)

namespace Date

/-- A date as `YYYY-MM-DD`. -/
def write (d : Date) : List Char :=
  paddedText 4 d.year ++ '-' :: paddedText 2 d.month ++ '-' :: paddedText 2 d.day

end Date

namespace Time

/-- A time as `HH:MM:SS`, with six decimals if it is not a full second. -/
def write (t : Time) : List Char :=
  paddedText 2 t.hour ++ ':' :: paddedText 2 t.minute ++ ':' :: paddedText 2 t.second ++
    if t.micro = 0 then [] else '.' :: paddedText 6 t.micro

end Time

namespace Offset

/-- An offset as `Z` for none and as `+HH:MM` or `-HH:MM` otherwise. -/
def write (o : Offset) : List Char :=
  if o.minutes = 0 then ['Z']
  else (if o.minutes < 0 then '-' else '+') ::
    paddedText 2 (o.minutes.natAbs / 60) ++ ':' :: paddedText 2 (o.minutes.natAbs % 60)

end Offset

namespace Timestamp

/-- The written form of a timestamp. -/
def write (t : Timestamp) : List Char :=
  t.date.write ++ 'T' :: t.time.write ++ t.offset.elim [] Offset.write

end Timestamp

/-! ## Reading the parts -/

/-- A number of two digits at the start of a text. -/
def twoDigits? : List Char → Option (Nat × List Char)
  | a :: b :: rest => do return (10 * (← asciiDigit? a) + (← asciiDigit? b), rest)
  | _ => none

/-- A number of four digits at the start of a text. -/
def fourDigits? (s : List Char) : Option (Nat × List Char) := do
  let (high, s) ← twoDigits? s
  let (low, s) ← twoDigits? s
  return (100 * high + low, s)

/-- The text after a character. -/
def skip? (c : Char) : List Char → Option (List Char)
  | [] => none
  | c' :: rest => if c' == c then some rest else none

namespace Date

/-- A date at the start of a text. -/
def read? (s : List Char) : Option (Date × List Char) := do
  let (year, s) ← fourDigits? s
  let s ← skip? '-' s
  let (month, s) ← twoDigits? s
  let s ← skip? '-' s
  let (day, s) ← twoDigits? s
  return (← make? year month day, s)

end Date

/-- The microseconds that decimals of a second stand for; what is finer is cut off. -/
def microsOfDecimals (digits : List Nat) : Nat :=
  ofDigits (digits.take 6 ++ List.replicate (6 - digits.length) 0)

/-- The digits at the start of a text, and the text after them. -/
def splitDigits : List Char → List Nat × List Char
  | [] => ([], [])
  | c :: rest =>
    match asciiDigit? c with
    | some d => let (more, rest) := splitDigits rest; (d :: more, rest)
    | none => ([], c :: rest)

/-- The decimals of a second, after a point or a comma, in microseconds. -/
def decimals? : List Char → Option (Nat × List Char)
  | c :: rest =>
    if c == '.' || c == ',' then
      let (digits, rest) := splitDigits rest
      if digits.isEmpty then none else some (microsOfDecimals digits, rest)
    else some (0, c :: rest)
  | [] => some (0, [])

namespace Time

/-- A time at the start of a text. Seconds may be missing, and so may their decimals. -/
def read? (s : List Char) : Option (Time × List Char) := do
  let (hour, s) ← twoDigits? s
  let s ← skip? ':' s
  let (minute, s) ← twoDigits? s
  match s with
  | ':' :: s =>
    let (second, s) ← twoDigits? s
    let (micro, s) ← decimals? s
    return (← make? hour minute second micro, s)
  | s => return (← make? hour minute 0 0, s)

end Time

namespace Offset

/-- Hours and minutes with or without a colon between them, at the end of a text. -/
def readMinutes? (s : List Char) : Option Nat := do
  let (hours, s) ← twoDigits? s
  let s := (skip? ':' s).getD s
  let (minutes, s) ← twoDigits? s
  if minutes < 60 ∧ s = [] then some (60 * hours + minutes) else none

/-- What a text that ends a timestamp says about the offset, which it may leave unknown. -/
def read? (s : List Char) : Option (Option Offset) :=
  match s with
  | [] => some none
  | ['Z'] => some (some utc)
  | ['z'] => some (some utc)
  | '+' :: s => do return some (← make? (← readMinutes? s))
  | '-' :: s => do return some (← make? (-(← readMinutes? s)))
  | '−' :: s => do return some (← make? (-(← readMinutes? s)))
  | _ => none

end Offset

namespace Timestamp

/-- A date, or a date and a time with a letter T, a space or an underscore between them. -/
def readCalendar? (s : List Char) : Option Timestamp := do
  let (date, s) ← Date.read? s
  match s with
  | [] => return ⟨date, .midnight, none⟩
  | c :: s =>
    if c == 'T' || c == 't' || c == ' ' || c == '_' then
      let (time, s) ← Time.read? s
      return ⟨date, time, ← Offset.read? s⟩
    else none

/-! ## Reading numbers -/

/-- The moment 1970-01-01T00:00:00Z. -/
def epoch : Int := 719162 * dayLength

/-- The greatest number that counts seconds. -/
def greatestSeconds : Nat := 20000000000

/-- The timestamp of a number of seconds, or of milliseconds when it is large, and further
microseconds. -/
def ofCount? (n : Int) (micros : Nat) : Option Timestamp :=
  let unit : Int := if greatestSeconds < n.natAbs then 1000 else secondLength
  ofInstant? (epoch + n * unit + micros)

/-- The greatest integer that is at most a number. -/
def floor (negative : Bool) (mantissa : Nat) (exponent : Int) : Int :=
  let (num, den) := Binary64.ratio mantissa exponent
  Int.fdiv (if negative then -(num : Int) else num) den

/-- The part of a number after the point, sign aside, in microseconds: the product is rounded to
double precision and then to the nearest integer, from the middle upwards. -/
def microsAfterPoint (mantissa : Nat) (exponent : Int) : Nat :=
  let (num, den) := Binary64.ratio mantissa exponent
  match Binary64.ofRatio false (num % den * secondLength) den with
  | .finite _ m e => let (num, den) := Binary64.ratio m e; (2 * num + den) / (2 * den)
  | _ => 0

/-- The timestamp of a number, by its floor and by the part after the point. -/
def ofReal? : Binary64 → Option Timestamp
  | .finite negative m e => ofCount? (floor negative m e) (microsAfterPoint m e)
  | _ => none

/-- The timestamp of a decimal, given by the digits before and after the point. The part after the
point of a negative number is dropped. -/
def ofDecimal? (negative : Bool) (whole places : List Nat) : Option Timestamp :=
  match Binary64.ofDecimal negative (ofDigits (whole ++ places)) (-(places.length : Int)) with
  | .finite _ m e =>
    let micros := if negative then 0 else microsAfterPoint m e
    ofCount? (floor negative m e) micros
  | _ => none

/-- A number at the end of a text: digits, perhaps with a point and further digits. -/
def readNumber? (negative : Bool) (s : List Char) : Option Timestamp :=
  match splitDigits s with
  | ([], _) => none
  | (whole, []) =>
    let n : Int := ofDigits whole
    ofCount? (if negative then -n else n) 0
  | (whole, '.' :: s) =>
    match splitDigits s with
    | (places, []) => ofDecimal? negative whole places
    | _ => none
  | _ => none

/-- A number with an optional sign. -/
def readSignedNumber? : List Char → Option Timestamp
  | '-' :: s => readNumber? true s
  | '+' :: s => readNumber? false s
  | s => readNumber? false s

/-- Reads a timestamp. -/
def read? (s : List Char) : Option Timestamp :=
  match readCalendar? s with
  | some t => some t
  | none => readSignedNumber? s

end Timestamp

end ContactSearch.Calendar
