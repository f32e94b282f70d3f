import ContactSearch.Proofs.Wire.Locations
import ContactSearch.Wire.Model
import Mathlib.Logic.Relation

/-!
# Two names for a field

Every field with two names may be given under either of them, and under both: then the wire name
decides alone. Data that is respelled so, in one object or in many and however deep, is read as the
same value, or has the same issues at the same fields. Where these are located is told by the keys
that were given, so there the spellings differ.
-/

namespace ContactSearch.Wire

variable {σ α β : Type}

/-! ## Respelling -/

/-- The fields of an object are given otherwise, in a way that should not matter. -/
inductive Fields.Respells (fields : Fields σ α) :
    KeyedList String Json → KeyedList String Json → Prop
  /-- A field that is given once, under its name, is given under its wire name. -/
  | toWire {β : Type} {name wire : String} {value : Schema β} {v : Json}
      {front back : KeyedList String Json} (known : fields.Has name wire value)
      (once : name ∉ KeyedList.keys (front ++ back)) (free : wire ∉ KeyedList.keys (front ++ back)) :
      Respells fields (front ++ (name, v) :: back) (front ++ (wire, v) :: back)
  /-- A field that is given once, under its wire name, is given under its name. -/
  | toName {β : Type} {name wire : String} {value : Schema β} {v : Json}
      {front back : KeyedList String Json} (known : fields.Has name wire value)
      (once : wire ∉ KeyedList.keys (front ++ back)) (free : name ∉ KeyedList.keys (front ++ back)) :
      Respells fields (front ++ (wire, v) :: back) (front ++ (name, v) :: back)
  /-- A field is given under its wire name, and what else is given under its name changes: it is
  another value, it goes, or it comes. -/
  | beside {β : Type} {name wire : String} {value : Schema β} {given given' : KeyedList String Json}
      (known : fields.Has name wire value) (two : name ≠ wire) (decided : wire ∈ given.keys)
      (others : ∀ key, key ≠ name → given.get? key = given'.get? key) : Respells fields given given'

/-- The fields of one object, of those that a schema sees in a value, are given otherwise. -/
inductive Schema.Respells : {α : Type} → Schema α → Json → Json → Prop
  | here {α : Type} {fields : Fields α α} {given given' : KeyedList String Json}
      (respelled : fields.Respells given given') :
      Respells (.record fields) (.object given) (.object given')
  | inField {α β : Type} {fields : Fields α α} {name wire key : String} {value : Schema β}
      {front back : KeyedList String Json} {v w : Json} (known : fields.Has name wire value)
      (named : key = name ∨ key = wire) (respelled : Respells value v w) :
      Respells (.record fields) (.object (front ++ (key, v) :: back))
        (.object (front ++ (key, w) :: back))
  | inSome {α : Type} {value : Schema α} {v w : Json} (respelled : Respells value v w) :
      Respells (.optional value) v w
  | inItem {α : Type} {item : Schema α} {front back : List Json} {v w : Json}
      (respelled : Respells item v w) :
      Respells (.list item) (.array (front ++ v :: back)) (.array (front ++ w :: back))
  | inEntry {α : Type} {value : Schema α} {key : String} {front back : List (String × Json)}
      {v w : Json} (respelled : Respells value v w) :
      Respells (.table value) (.object (front ++ (key, v) :: back))
        (.object (front ++ (key, w) :: back))

/-! ## One object -/

namespace Fields

variable {fields : Fields σ α} {name wire : String} {value : Schema β}

theorem told_read_toWire {front back : KeyedList String Json} {v : Json}
    (apart : fields.haveApartNames = true) (known : fields.Has name wire value)
    (once : name ∉ KeyedList.keys (front ++ back)) (free : wire ∉ KeyedList.keys (front ++ back)) :
    (fields.read (front ++ (name, v) :: back)).told =
      (fields.read (front ++ (wire, v) :: back)).told := by
  refine told_read_of_has known apart ?_ ?_
  · intro key other other'
    rw [KeyedList.get?_around_of_ne v front back other.symm,
      KeyedList.get?_around_of_ne v front back other'.symm]
  · have after : fieldValue? name wire (front ++ (wire, v) :: back) = some v := by
      rw [fieldValue?, KeyedList.get?_around_self v free, Option.some_or]
    have before : fieldValue? name wire (front ++ (name, v) :: back) = some v := by
      by_cases one : name = wire
      · rw [← after, one]
      · rw [fieldValue?, KeyedList.get?_around_of_ne v front back one,
          KeyedList.get?_eq_none_iff.mpr free, Option.none_or, KeyedList.get?_around_self v once]
    rw [before, after]

/-- What decides is what stands under the wire name. -/
theorem told_read_beside {given given' : KeyedList String Json}
    (apart : fields.haveApartNames = true) (known : fields.Has name wire value) (two : name ≠ wire)
    (decided : wire ∈ given.keys)
    (others : ∀ key, key ≠ name → given.get? key = given'.get? key) :
    (fields.read given).told = (fields.read given').told := by
  refine told_read_of_has known apart (fun key other _ => others key other) ?_
  cases found : given.get? wire with
  | none => exact absurd decided (KeyedList.get?_eq_none_iff.mp found)
  | some v =>
    rw [fieldValue?, fieldValue?, ← others wire two.symm, found, Option.some_or, Option.some_or]

theorem told_read_of_respells {given given' : KeyedList String Json}
    (apart : fields.haveApartNames = true) (respelled : fields.Respells given given') :
    (fields.read given).told = (fields.read given').told := by
  cases respelled with
  | toWire known once free => exact told_read_toWire apart known once free
  | toName known once free => exact (told_read_toWire apart known free once).symm
  | beside known two decided others => exact told_read_beside apart known two decided others

/-- Where the same is told of the value of a field, the same is told of the object. -/
theorem told_read_inField {front back : KeyedList String Json} {key : String} {v w : Json}
    (apart : fields.haveApartNames = true) (known : fields.Has name wire value)
    (named : key = name ∨ key = wire) (same : (value.read v).told = (value.read w).told) :
    (fields.read (front ++ (key, v) :: back)).told =
      (fields.read (front ++ (key, w) :: back)).told := by
  have looked : ∀ k, (KeyedList.get? k (front ++ (key, v) :: back)).map
      (fun v => (value.read v).told) =
        (KeyedList.get? k (front ++ (key, w) :: back)).map fun v => (value.read v).told := by
    intro k
    rw [← KeyedList.get?_map, ← KeyedList.get?_map]
    simp only [List.map_append, List.map_cons, same]
  refine told_read_of_has known apart ?_ ?_
  · intro k other other'
    have different : key ≠ k := by
      rintro rfl
      exact named.elim other other'
    rw [KeyedList.get?_around_of_ne v front back different,
      KeyedList.get?_around_of_ne w front back different]
  · rw [fieldValue?, fieldValue?, Option.map_or, Option.map_or, looked, looked]

end Fields

/-! ## One object in a value -/

/-- Rows that differ at one place are related where what stands there is. -/
theorem forall₂_around {ι : Type} {R : ι → ι → Prop} (same : ∀ i, R i i) (front back : List ι)
    {a b : ι} (related : R a b) : List.Forall₂ R (front ++ a :: back) (front ++ b :: back) :=
  List.rel_append (List.forall₂_same.mpr fun i _ => same i)
    (.cons related (List.forall₂_same.mpr fun i _ => same i))

namespace Schema

/-- Null holds no object. -/
theorem Respells.ne_null {s : Schema α} {v w : Json} (respelled : s.Respells v w) :
    v ≠ .null ∧ w ≠ .null := by
  induction respelled with
  | inSome _ ih => exact ih
  | _ => exact ⟨Json.noConfusion, Json.noConfusion⟩

theorem read_optional_of_ne_null {value : Schema α} {v : Json} (given : v ≠ .null) :
    (optional value).read v = (value.read v).map some := by
  cases v with
  | null => exact absurd rfl given
  | _ => rfl

/-- One object within a value is respelled: the same is told of the value. -/
theorem told_read_of_respells {s : Schema α} {v w : Json} (apart : s.hasApartNames = true)
    (respelled : s.Respells v w) : (s.read v).told = (s.read w).told := by
  induction respelled with
  | here respelled => exact Fields.told_read_of_respells apart respelled
  | inField known named _ ih =>
    exact Fields.told_read_inField apart known named (ih (known.hasApartNames apart))
  | inSome respelled ih =>
    obtain ⟨given, given'⟩ := respelled.ne_null
    rw [read_optional_of_ne_null given, read_optional_of_ne_null given']
    exact Checked.told_map some (ih apart)
  | @inItem α item front back v w _ ih =>
    refine told_readItems (forall₂_around ?_ front back (ih apart)) 0
    exact fun _ => rfl
  | @inEntry α value key front back v w _ ih =>
    refine Checked.told_map KeyedList.ofPairs (told_readEntries ?_)
    exact forall₂_around (fun _ => ⟨rfl, rfl⟩) front back ⟨rfl, ih apart⟩

end Schema

/-! ## Any number of objects -/

namespace Model

/-- In no kind of object a name serves two fields. -/
theorem hasApartNames_schema (m : Model) : m.schema.hasApartNames = true := by
  cases m <;> decide

/-- Data for an object of any kind may be respelled as often and wherever the object or one within it
has a field with two names: it is read as the same object, or has the same issues at the same fields
in the same order. Each of them is located by the keys under which the fields are given. -/
theorem told_read_of_respelled (m : Model) (v w : Json)
    (respelled : Relation.ReflTransGen m.schema.Respells v w) :
    (m.schema.read v).told = (m.schema.read w).told ∧
      (m.schema.read v).Locates (m.schema.Leads v) ∧
      (m.schema.read w).Locates (m.schema.Leads w) := by
  refine ⟨?_, m.schema.locates_read v, m.schema.locates_read w⟩
  induction respelled with
  | refl => rfl
  | tail _ last ih => exact ih.trans (Schema.told_read_of_respells m.hasApartNames_schema last)

/-- A contact that was added at no readable time, with this name of the field and maybe more. -/
def contactUnder (created : String) (more : List (String × Json)) : Json :=
  .object (("id", .int 1) :: (created, .text "soon") :: more)

/-- A request for a query over one contact, with this name of the field. -/
def requestUnder (orgs : String) (contact : Json) : Json :=
  .object [("query", .text "hot"), ("records", .array [contact]), (orgs, .array [.text "Acme"])]

/-- Where a request with a contact of no readable time has its issue, by wire names. -/
def requestIssue : List Step × Cause :=
  ([.field "records" "records", .item 0, .field "createdAt" "createdAt"], .unreadableTimestamp)

theorem contactUnder_respelled :
    Contact.schema.Respells (contactUnder "created_at" []) (contactUnder "createdAt" []) :=
  .here (@Fields.Respells.toWire _ _ _ _ "created_at" "createdAt" _ (.text "soon")
    [("id", .int 1)] [] (.earlier .last) (by decide) (by decide))

/-- A request under plain names is respelled; then a time is added that counts for nothing. -/
theorem told_read_requestUnder :
    Relation.ReflTransGen queryRequest.schema.Respells
        (requestUnder "known_orgs" (contactUnder "created_at" []))
        (requestUnder "knownOrgs" (contactUnder "createdAt" [("created_at", .int 0)])) ∧
      (queryRequest.schema.read (requestUnder "known_orgs" (contactUnder "created_at" []))).told =
        .error [requestIssue] ∧
      (queryRequest.schema.read (requestUnder "knownOrgs"
        (contactUnder "createdAt" [("created_at", .int 0)]))).told = .error [requestIssue] := by
  have orgs : queryRequest.schema.Respells (requestUnder "known_orgs" (contactUnder "created_at" []))
      (requestUnder "knownOrgs" (contactUnder "created_at" [])) :=
    .here (@Fields.Respells.toWire _ _ _ _ "known_orgs" "knownOrgs" _ (.array [.text "Acme"])
      [("query", .text "hot"), ("records", .array [contactUnder "created_at" []])] [] .last
      (by decide) (by decide))
  -- What is respelled in the contact is respelled in the request.
  have within : ∀ v w, Contact.schema.Respells v w →
      queryRequest.schema.Respells (requestUnder "knownOrgs" v) (requestUnder "knownOrgs" w) :=
    fun v w respelled => @Schema.Respells.inField _ _ _ "records" "records" "records" _
      [("query", .text "hot")] [("knownOrgs", .array [.text "Acme"])] _ _ (.earlier .last) (.inl rfl)
      (@Schema.Respells.inItem _ _ [] [] v w respelled)
  have more : Contact.schema.Respells (contactUnder "createdAt" [])
      (contactUnder "createdAt" [("created_at", .int 0)]) := by
    refine .here (@Fields.Respells.beside _ _ _ _ "created_at" "createdAt" _ _ _ (.earlier .last)
      (by decide) (by decide) ?_)
    intro key other
    simp [KeyedList.get?, other.symm]
  have respelled := Relation.ReflTransGen.tail (Relation.ReflTransGen.tail
    (.single orgs) (within _ _ contactUnder_respelled)) (within _ _ more)
  have told : (queryRequest.schema.read (requestUnder "known_orgs"
      (contactUnder "created_at" []))).told = .error [requestIssue] := rfl
  exact ⟨respelled, told, (told_read_of_respelled _ _ _ respelled).1.symm.trans told⟩

/-- The time of a contact under its two names: the same issue, and each is located by its own key. -/
theorem contactUnder_locatedApart :
    Relation.ReflTransGen contact.schema.Respells (contactUnder "created_at" [])
        (contactUnder "createdAt" []) ∧
      contact.schema.read (contactUnder "created_at" []) =
        .error [⟨[.field "createdAt" "created_at"], .unreadableTimestamp, .text "soon"⟩] ∧
      contact.schema.read (contactUnder "createdAt" []) =
        .error [⟨[.field "createdAt" "createdAt"], .unreadableTimestamp, .text "soon"⟩] :=
  ⟨.single contactUnder_respelled, rfl, rfl⟩

end Model

end ContactSearch.Wire
