import ContactSearch.KeyedList
import ContactSearch.Number.Binary64
import ContactSearch.Text.Unit

/-!
# JSON values

Integers and numbers of double precision are kept apart, and the fields of an object keep their
order.
-/

namespace ContactSearch

/-- A JSON value. -/
inductive Json where
  | null
  | bool (b : Bool)
  | int (n : Int)
  | real (x : Binary64)
  | text (s : String)
  | array (items : List Json)
  | object (fields : List (String × Json))
deriving Repr, Inhabited

namespace Json

/-- The fields of an object, none of any other value. -/
def fields : Json → KeyedList String Json
  | object fs => fs
  | _ => []

/-- The value of a field. -/
def field? (name : String) (v : Json) : Option Json :=
  KeyedList.get? name v.fields

/-- The text of a value that is one. -/
def text? : Json → Option String
  | text s => some s
  | _ => none

mutual

/-- Holds no infinite number and nothing that is not a number. -/
def isFinite : Json → Bool
  | real x => x.isFinite
  | array items => areFinite items
  | object fields => areFiniteFields fields
  | _ => true

/-- All items are finite. -/
def areFinite : List Json → Bool
  | [] => true
  | v :: rest => v.isFinite && areFinite rest

/-- The values of all fields are finite. -/
def areFiniteFields : List (String × Json) → Bool
  | [] => true
  | (_, v) :: rest => v.isFinite && areFiniteFields rest

end

mutual

/-- Some text in the value, or the name of some field, holds what may stand for no character. -/
def tellsStandIn : Json → Bool
  | text s => s.toList.any Text.isStandIn
  | array items => someTellStandIn items
  | object fields => someFieldTellsStandIn fields
  | _ => false

/-- Some item does. -/
def someTellStandIn : List Json → Bool
  | [] => false
  | v :: rest => v.tellsStandIn || someTellStandIn rest

/-- Some field does. -/
def someFieldTellsStandIn : List (String × Json) → Bool
  | [] => false
  | (name, v) :: rest =>
    name.toList.any Text.isStandIn || v.tellsStandIn || someFieldTellsStandIn rest

end

/-- A text, or null for none. -/
def ofText? : Option String → Json
  | some s => text s
  | none => null

end Json

end ContactSearch
