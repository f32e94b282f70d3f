import ContactSearch.Json.Octets
import ContactSearch.Recency
import ContactSearch.Store.Basic
import ContactSearch.Wire.Schema

/-!
# Responses

What the service answers: a status and a body. Everything that can go wrong is a cause of its own
and is answered in its own way.
-/

namespace ContactSearch

open Wire

/-- An answer to a request. -/
structure Response where
  status : Nat
  body : Json

/-- What a step of handling a request breaks down on. -/
inductive Fault where
  | recency (e : RecencyError)
  | store (e : StoreError)
  /-- A reader has no room for an array or object. -/
  | tooDeep (c : Json.Compound)
  /-- What was given is to be told back, and there is no written form of it. -/
  | unwritable
  /-- What is told is torn, and there are no octets for it. -/
  | unencodable
deriving Repr, DecidableEq

namespace Fault

/-- Only numbers of days that fit into 32 bits are told back. -/
def tellableDays (days : Int) : Bool :=
  decide (-0x80000000 ≤ days ∧ days < 0x80000000)

/-- What a fault says about itself; of one in the octets of an answer, without its position. -/
def message : Fault → String
  | recency (.tooManyDays days) =>
    if tellableDays days then
      "days=" ++ String.ofList (Text.intText days) ++ "; must have magnitude <= " ++
        String.ofList (Text.natText Recency.maxDays)
    else "Python int too large to convert to C int"
  | recency .outsideCalendar => "date value out of range"
  | store _ => ""
  | tooDeep .array =>
    "maximum recursion depth exceeded while decoding a JSON array from a unicode string"
  | tooDeep .object =>
    "maximum recursion depth exceeded while decoding a JSON object from a unicode string"
  | unwritable => "Out of range float values are not JSON compliant"
  | unencodable => "surrogates not allowed"

end Fault

namespace Response

/-- A body with one text. -/
def detail (s : String) : Json :=
  .object [("detail", .text s)]

/-- An answer that carries data. -/
def ok (body : Json) : Response :=
  ⟨200, body⟩

/-- There is nothing under the path. -/
def notFound : Response :=
  ⟨404, detail "Not Found"⟩

/-- The path does not take this method. -/
def methodNotAllowed : Response :=
  ⟨405, detail "Method Not Allowed"⟩

/-- The body cannot be decoded. -/
def undecodable : Response :=
  ⟨400, detail "There was an error parsing the body"⟩

/-- A query is missing. -/
def noQuery : Response :=
  ⟨400, detail "Query is required"⟩

/-- The classifier answered something that cannot be used. -/
def badGateway (message : String) : Response :=
  ⟨502, detail message⟩

/-- Something broke. The fault tells about itself only while debugging. -/
def broken (debug : Bool) (fault : Fault) : Response :=
  ⟨500, .object [("detail", .text "Internal server error"),
    ("error", .text (if debug then fault.message else "An error occurred"))]⟩

/-- A step of a path as data; fields are told by their wire names. -/
def stepJson : Step → Json
  | .field wire _ => .text wire
  | .entry key => .text key
  | .item index => .int index

/-- The name of a cause in the body of a request. -/
def causeCode : Cause → String
  | .notRecord => "model_attributes_type"
  | cause => cause.code

/-- A problem at a place in the body. -/
def problem (path : List Step) (code : String) : Json :=
  .object [("loc", .array (.text "body" :: path.map stepJson)), ("type", .text code)]

/-- The body cannot be processed for these reasons. -/
def unprocessable (problems : List Json) : Response :=
  ⟨422, .object [("detail", .array problems)]⟩

/-- The body does not fit its schema. -/
def misfit (issues : List Issue) : Response :=
  unprocessable (issues.map fun i => problem i.path (causeCode i.cause))

/-- There is no body. -/
def noBody : Response :=
  unprocessable [problem [] Cause.missing.code]

/-- The body is no JSON. -/
def notJson : Response :=
  unprocessable [problem [] "json_invalid"]

end Response

end ContactSearch
