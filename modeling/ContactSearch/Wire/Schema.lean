import ContactSearch.Json.Value
import ContactSearch.Wire.Integer

/-!
# Schemas

A schema describes how the values of a type stand in JSON data. One description drives both
directions: `Schema.read` accepts data with some freedom and tells everything that is wrong with
it, and `Schema.write` gives the one written form.

A field has two names. Data is read under either of them, and when both are there the wire name
decides; it is written under the wire name. The place of an issue tells the key under which a field
was given, which is the wire name where it was not given at all. Fields that are not known are
ignored.
-/

namespace ContactSearch.Wire

mutual

/-- How the values of a type stand in data. -/
inductive Schema : Type → Type 1 where
  /-- A single value. -/
  | leaf {α : Type} (read : Json → Except Cause α) (write : α → Json) : Schema α
  /-- A value or null. -/
  | optional {α : Type} (value : Schema α) : Schema (Option α)
  /-- An array. -/
  | list {α : Type} (item : Schema α) : Schema (List α)
  /-- An object whose keys are integers. -/
  | table {α : Type} (value : Schema α) : Schema (KeyedList Int α)
  /-- An object with fixed fields. -/
  | record {α : Type} (fields : Fields α α) : Schema α

/-- The fields of a record type `σ` from the first one on, with what makes an `α` of them. -/
inductive Fields : Type → Type → Type 1 where
  | nil {σ α : Type} (make : α) : Fields σ α
  /-- One more field: its two names, its schema, its value when it is absent (none when it may not
  be), and how it is taken from the record. -/
  | snoc {σ α β : Type} (before : Fields σ (β → α)) (name wire : String) (value : Schema β)
      (absent : Option β) (get : σ → β) : Fields σ α

end

/-! ## Reading -/

/-- Reads the items of an array, the first of which has this index. -/
def readItems {α : Type} (read : Json → Checked α) (index : Nat) : List Json → Checked (List α)
  | [] => .ok []
  | v :: rest =>
    Checked.combine List.cons ((read v).under (.item index)) (readItems read (index + 1) rest)

/-- Reads an entry of a table. -/
def readEntry {α : Type} (read : Json → Checked α) (key : String) (v : Json) : Checked (Int × α) :=
  (Checked.combine Prod.mk
    ((Checked.ofCause (.text key) (integerOfText key.toList)).under (.entry "[key]"))
    (read v)).under (.entry key)

/-- Reads the entries of a table. -/
def readEntries {α : Type} (read : Json → Checked α) :
    List (String × Json) → Checked (List (Int × α))
  | [] => .ok []
  | (key, v) :: rest => Checked.combine List.cons (readEntry read key v) (readEntries read rest)

/-- The value of a field that may be given under two names. -/
def fieldValue? (name wire : String) (fields : KeyedList String Json) : Option Json :=
  (fields.get? wire).or (fields.get? name)

/-- The key under which such a field is given; the wire name where it is not. -/
def fieldKey (name wire : String) (fields : KeyedList String Json) : String :=
  if (fields.get? wire).isNone && (fields.get? name).isSome then name else wire

/-- Reads a field of an object that may be given under two names. -/
def readField {α : Type} (read : Json → Checked α) (name wire : String) (absent : Option α)
    (given : KeyedList String Json) : Checked α :=
  match fieldValue? name wire given with
  | some v => (read v).under (.field wire (fieldKey name wire given))
  | none =>
    match absent with
    | some a => .ok a
    | none => .refuse [.field wire wire] .missing (.object given)

mutual

/-- Reads a value, or tells everything that is wrong with it. -/
def Schema.read : {α : Type} → Schema α → Json → Checked α
  | _, .leaf read _, v => .ofCause v (read v)
  | _, .optional value, v =>
    match v with
    | .null => .ok none
    | v => (value.read v).map some
  | _, .list item, v =>
    match v with
    | .array items => readItems item.read 0 items
    | v => .refuse [] .notList v
  | _, .table value, v =>
    match v with
    | .object entries => (readEntries value.read entries).map KeyedList.ofPairs
    | v => .refuse [] .notTable v
  | _, .record fields, v =>
    match v with
    | .object given => fields.read given
    | v => .refuse [] .notRecord v

/-- Reads fields from those of an object. -/
def Fields.read : {σ α : Type} → Fields σ α → KeyedList String Json → Checked α
  | _, _, .nil make, _ => .ok make
  | _, _, .snoc before name wire value absent _, given =>
    Checked.combine id (before.read given) (readField value.read name wire absent given)

end

/-! ## Writing -/

mutual

/-- The written form of a value. -/
def Schema.write : {α : Type} → Schema α → α → Json
  | _, .leaf _ write, a => write a
  | _, .optional value, a =>
    match a with
    | none => .null
    | some a => value.write a
  | _, .list item, items => .array (items.map item.write)
  | _, .table value, entries =>
    .object (entries.map fun (key, a) => (String.ofList (Text.intText key), value.write a))
  | _, .record fields, a => .object (fields.write a)

/-- The written fields of a record, each under its wire name. -/
def Fields.write : {σ α : Type} → Fields σ α → σ → List (String × Json)
  | _, _, .nil _, _ => []
  | _, _, .snoc before _ wire value _ get, r => before.write r ++ [(wire, value.write (get r))]

end

/-! ## Building fields -/

namespace Fields

variable {σ α β : Type}

/-- A field that has to be there. -/
def required (before : Fields σ (β → α)) (name wire : String) (value : Schema β) (get : σ → β) :
    Fields σ α :=
  .snoc before name wire value none get

/-- A field with a value for when it is absent. -/
def withDefault (before : Fields σ (β → α)) (name wire : String) (value : Schema β) (absent : β)
    (get : σ → β) : Fields σ α :=
  .snoc before name wire value (some absent) get

/-- A field that may be absent or null. -/
def maybe (before : Fields σ (Option β → α)) (name wire : String) (value : Schema β)
    (get : σ → Option β) : Fields σ α :=
  .snoc before name wire (.optional value) (some none) get

end Fields

end ContactSearch.Wire
