import ContactSearch.Json.Value

/-!
# People connected to deals

The details of a deal name people as investors, as sellers and as targets of outreach. Details are
data that nobody has checked, so what is read here has to be told apart from what is not there.
-/

namespace ContactSearch.People

/-- Why details cannot be read. -/
inductive DetailError where
  /-- Fields were asked of a value that has none. -/
  | notObject
  /-- Items were asked of a value that has none. -/
  | notIterable
  /-- An id is a list or an object. -/
  | compoundId
deriving Repr, DecidableEq

/-- A value that counts as nothing: null, false, a zero, or something empty. -/
def isNothing : Json → Bool
  | .null => true
  | .bool b => !b
  | .int n => n == 0
  | .real x => !x.isNonzero
  | .text s => s.isEmpty
  | .array items => items.isEmpty
  | .object fields => fields.isEmpty

/-- The items of a value: those of a list, the characters of a text, the keys of an object. -/
def items : Json → Except DetailError (List Json)
  | .array items => .ok items
  | .text s => .ok (s.toList.map fun c => .text (String.singleton c))
  | .object fields => .ok (fields.map fun (key, _) => .text key)
  | _ => .error .notIterable

/-- A field of an object, null when it is missing. -/
def field (name : String) : Json → Except DetailError Json
  | .object fields => .ok ((KeyedList.get? name fields).getD .null)
  | _ => .error .notObject

/-- The items of a field that may be missing or count as nothing. -/
def itemsOf (name : String) (v : Json) : Except DetailError (List Json) := do
  let given ← field name v
  if isNothing given then return [] else items given

/-- An id as it is, unless it counts as nothing. -/
def idOf? (v : Json) : Except DetailError (Option Json) :=
  if isNothing v then .ok none
  else match v with
    | .array _ => .error .compoundId
    | .object _ => .error .compoundId
    | v => .ok (some v)

/-- The id of the person that a field describes; what is no object describes none. -/
def nestedId? (name : String) (v : Json) : Except DetailError (Option Json) := do
  match ← field name v with
  | .object fields => idOf? ((KeyedList.get? "id" fields).getD .null)
  | _ => return none

/-- The ids of the people that these fields of a value describe. -/
def nestedIds (names : List String) (v : Json) : Except DetailError (List Json) := do
  return (← names.mapM (nestedId? · v)).filterMap id

/-- The id of a target that is a person. -/
def targetId? (v : Json) : Except DetailError (Option Json) := do
  match ← field "targetType" v with
  | .text kind => if kind = "Person" then idOf? (← field "targetId" v) else return none
  | _ => return none

/-- The ids in the details of one deal: investors, sellers, targets. -/
def detailIds (detail : Json) : Except DetailError (List Json) := do
  if isNothing detail then return []
  let investors ← (← itemsOf "interests" detail).mapM (nestedIds ["contact", "decisionMaker"])
  let sellers ← (← itemsOf "blocks" detail).mapM (nestedIds ["contact", "brokerContact"])
  let targets ← (← itemsOf "targets" detail).mapM targetId?
  return investors.flatten ++ sellers.flatten ++ targets.filterMap id

/-- What makes two ids the same one: numbers of any form are compared by their value, and true is
the number one. -/
inductive Identity where
  | integer (n : Int)
  | real (x : Binary64)
  | text (s : String)
  /-- No id. -/
  | nothing
deriving Repr, DecidableEq

/-- The identity of an id. -/
def identity : Json → Identity
  | .bool b => .integer (if b then 1 else 0)
  | .int n => .integer n
  | .real x =>
    match x.toInt? with
    | some n => .integer n
    | none => .real x
  | .text s => .text s
  | _ => .nothing

/-- Two ids are the same one. -/
def sameId (v w : Json) : Bool :=
  identity v == identity w

/-- Adds an id at the end, unless the same one is there. -/
def addNew (seen : List Json) (v : Json) : List Json :=
  if seen.any (sameId v) then seen else seen ++ [v]

/-- Ids without repetition, each where and as it is first seen. -/
def distinct (ids : List Json) : List Json :=
  ids.foldl addNew []

/-- The distinct ids of the people in the details of deals. -/
def collect (details : Json) : Except DetailError (List Json) := do
  return distinct (← (← items details).mapM detailIds).flatten

end ContactSearch.People
