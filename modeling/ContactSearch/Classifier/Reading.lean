import ContactSearch.Json.Octets
import ContactSearch.Text.Digit
import ContactSearch.Wire.Filter

/-!
# Reading the classifier's answer

The answer arrives as text, as octets in any of the encodings of JSON, or decoded. In all forms it
has to be an object with an object of filters whose known fields can be read. A reader with some room
breaks down on text, or octets of text, that overflow it.
-/

namespace ContactSearch

open Wire

/-- The forms in which an answer arrives. -/
inductive Payload where
  | text (s : String)
  | octets (s : Text.Octets)
  | decoded (v : Json)

/-- Why an answer cannot be used. -/
inductive ClassifierError where
  | malformed
  | notObject
  | noFilters
  | invalid (issues : List Issue)
deriving Repr

/-- The message of an error, without the list of issues. -/
def ClassifierError.message : ClassifierError → String
  | malformed => "Malformed classifier JSON"
  | notObject => "Classifier response must be a JSON object"
  | noFilters => "Classifier response is missing 'filters'"
  | invalid issues =>
    "Invalid classifier response: " ++ String.ofList (Text.natText issues.length) ++
      (if issues.length = 1 then " validation error" else " validation errors") ++
      " for ClassifierResponse"

namespace Payload

/-- The value that a payload holds. -/
def decode : Payload → Except ClassifierError Json
  | text s => (Json.read s.toList).mapError fun _ => .malformed
  | octets s => (Json.readOctets s).mapError fun _ => .malformed
  | decoded v => .ok v

/-- The array or object in a payload that a reader has no room for, if there is one. -/
def overflow? (room : Option Nat) : Payload → Option Json.Compound
  | text s => Json.overflow? room s.toList
  | octets s =>
    match Json.readOctetsWithin room s with
    | .error (.unreadable (.tooDeep c)) => some c
    | _ => none
  | decoded _ => none

end Payload

/-- Why reading an answer with some room ends without one. -/
inductive AnswerFault where
  | rejected (e : ClassifierError)
  | tooDeep (c : Json.Compound)
deriving Repr

namespace ClassifierAnswer

/-- The value is an object. -/
def isObject : Json → Bool
  | .object _ => true
  | _ => false

/-- Reads an answer from a decoded value. -/
def ofJson (v : Json) : Except ClassifierError ClassifierAnswer :=
  if !isObject v then .error .notObject
  else if !(v.field? "filters").any isObject then .error .noFilters
  else (schema.read v).mapError .invalid

/-- Reads an answer, however deeply it is nested. -/
def read (payload : Payload) : Except ClassifierError ClassifierAnswer := do
  ofJson (← payload.decode)

/-- Reads an answer with room for so many values in one another. -/
def readWithin (room : Option Nat) (payload : Payload) : Except AnswerFault ClassifierAnswer :=
  match payload.overflow? room with
  | some c => .error (.tooDeep c)
  | none => (read payload).mapError .rejected

end ClassifierAnswer

end ContactSearch
