import ContactSearch.Calendar.Written
import ContactSearch.Category
import ContactSearch.Intent
import ContactSearch.Warmth
import ContactSearch.Wire.Integer

/-!
# Single values in data
-/

namespace ContactSearch.Wire

open Calendar

/-- A text. -/
def readText : Json → Except Cause String
  | .text s => .ok s
  | _ => .error .notText

/-- A text of one character or more. -/
def readNonEmptyText (v : Json) : Except Cause String := do
  let s ← readText v
  if s.isEmpty then throw .tooShort else return s

/-- The level of a relationship, by its number. -/
def readWarmth (v : Json) : Except Cause Warmth := do
  let n ← readInteger v
  match Warmth.ofLevel? n with
  | some w => return w
  | none => throw (if n < 0 then .tooSmall else .tooLarge)

/-- A category, by its name. -/
def readCategory : Json → Except Cause Category
  | .text s => match Category.ofName? s with
    | some c => .ok c
    | none => .error .notMember
  | _ => .error .notMember

/-- A kind of intent, by its name. -/
def readIntentKind : Json → Except Cause IntentKind
  | .text s => match IntentKind.ofCode? s with
    | some k => .ok k
    | none => .error .notMember
  | _ => .error .notMember

/-- The words for a truth value, in lower case. -/
def truthWords : List (String × Bool) :=
  [("0", false), ("off", false), ("f", false), ("false", false), ("n", false), ("no", false),
   ("1", true), ("on", true), ("t", true), ("true", true), ("y", true), ("yes", true)]

/-- A truth value in text, ASCII letters in any case. -/
def truthOfText (s : String) : Except Cause Bool :=
  match truthWords.lookup (s.map Char.toLower) with
  | some b => .ok b
  | none => .error .unreadableBoolean

/-- A truth value as a number. -/
def truthOfInt (n : Int) : Except Cause Bool :=
  if n = 0 then .ok false else if n = 1 then .ok true else .error .unreadableBoolean

/-- A truth value. -/
def readTruth : Json → Except Cause Bool
  | .bool b => .ok b
  | .text s => truthOfText s
  | .int n => truthOfInt n
  | .real x =>
    match integerOfReal x with
    | .ok n => truthOfInt n
    | .error _ => .error .notBoolean
  | _ => .error .notBoolean

/-- Integers beyond this bound are taken in double precision where a timestamp is read. -/
def timestampBound : Int := 0x8000000000000000

/-- A timestamp given as an integer. -/
def timestampOfInt (n : Int) : Except Cause Timestamp :=
  if -timestampBound ≤ n ∧ n < timestampBound then
    match Timestamp.ofCount? n 0 with
    | some t => .ok t
    | none => .error .unreadableTimestamp
  else
    match Binary64.ofInt n with
    | .finite .. => .error .unreadableTimestamp
    | _ => .error .notTimestamp

/-- A timestamp: text, or a number since 1970. -/
def readTimestamp : Json → Except Cause Timestamp
  | .text s => match Timestamp.read? s.toList with
    | some t => .ok t
    | none => .error .unreadableTimestamp
  | .real x => match Timestamp.ofReal? x with
    | some t => .ok t
    | none => .error .unreadableTimestamp
  | .int n => timestampOfInt n
  | _ => .error .notTimestamp

/-- Any object. -/
def readObject : Json → Except Cause (KeyedList String Json)
  | .object fields => .ok fields
  | _ => .error .notTable

end ContactSearch.Wire
