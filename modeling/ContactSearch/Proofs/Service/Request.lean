import ContactSearch.Proofs.Json.RoundTrip
import ContactSearch.Proofs.Wire.Record
import ContactSearch.Service.Basic

/-!
# Requests that can be read

How a request for a search, or for filters, is answered once its body has been read: by what the
route makes of it, or by the answer that something broke. Neither changes the registry. What the route
makes of it is answered as it is, unless the data is torn and the answer tells of that.
-/

namespace ContactSearch

open Wire

variable {α : Type} {room : Option Nat}

/-- A body that is read holds a value that fits. -/
theorem Request.read_eq_ok_iff {schema : Schema α} {request : Request} {a : α} :
    request.read room schema = .ok a ↔ request.body ≠ [] ∧
      ∃ v, Json.readOctetsWithin room request.body = .ok v ∧ schema.read v = .ok a := by
  unfold Request.read
  by_cases empty : request.body = []
  · simp [empty]
  · rw [if_neg (by simpa using empty)]
    cases decoded : Json.readOctetsWithin room request.body with
    | error e =>
      split <;> simp_all
    | ok v =>
      cases fits : schema.read v <;> simp [empty, fits, Except.mapError]

/-- A record is read from an object. -/
theorem Request.read_record_eq_ok_iff {fields : Fields α α} {request : Request} {a : α} :
    request.read room (.record fields) = .ok a ↔ request.body ≠ [] ∧
      ∃ given, Json.readOctetsWithin room request.body = .ok (.object given) ∧
        fields.read given = .ok a := by
  rw [Request.read_eq_ok_iff]
  simp only [Schema.read_record_eq_ok_iff]
  constructor
  · rintro ⟨some, v, decoded, given, rfl, fits⟩
    exact ⟨some, given, decoded, fits⟩
  · rintro ⟨some, given, decoded, fits⟩
    exact ⟨some, _, decoded, given, rfl, fits⟩

namespace Route

theorem find_search (body : Text.Octets) :
    find ⟨"POST", "/v1/search/smart", body⟩ = .ok search := by
  have path : bare "/v1/search/smart" = "/v1/search/smart" := by decide
  simp [find, path, table, List.lookup_cons]

theorem find_filter (body : Text.Octets) :
    find ⟨"POST", "/v1/search/filters", body⟩ = .ok filter := by
  have path : bare "/v1/search/filters" = "/v1/search/filters" := by decide
  simp [find, path, table, List.lookup_cons]

end Route

theorem Json.someFieldTellsStandIn_iff {fields : List (String × Json)} :
    someFieldTellsStandIn fields = true ↔
      ∃ p ∈ fields, p.1.toList.any Text.isStandIn = true ∨ p.2.tellsStandIn = true := by
  induction fields with
  | nil => simp [someFieldTellsStandIn]
  | cons p fields ih => simp [someFieldTellsStandIn, ih]

/-- An object tells what its fields do. -/
theorem Json.tellsStandIn_of_mem (fields : List (String × Json)) {name : String} {v : Json}
    (member : (name, v) ∈ fields) (tells : v.tellsStandIn = true) :
    (object fields).tellsStandIn = true := by
  rw [tellsStandIn]
  exact someFieldTellsStandIn_iff.mpr ⟨_, member, .inr tells⟩

/-- There are octets for an answer: it tells of no unit that is no character. That is sure where the
data is not torn. -/
def Response.CanBeTold (torn : Bool) (response : Response) : Prop :=
  torn = true → response.body.tellsStandIn = false

/-- An answer to data that may be torn is this one if it can be told, and otherwise it may break. -/
structure Response.Tells (o : Occasion) (torn : Bool) (told response : Response) : Prop where
  whole : told.CanBeTold torn → response = told
  torn : response = told ∨ torn = true ∧ response = .broken o.debug .unencodable

namespace Service

variable {o : Occasion} {r : Registry} {body : Text.Octets} {torn : Bool} {response : Response}

theorem canBeTold_of_whole (response : Response) : response.CanBeTold false :=
  nofun

theorem settle_of_canBeTold (tells : response.CanBeTold torn) :
    settle o torn (.ok response) = response := by
  refine if_neg fun broken => ?_
  rw [Bool.and_eq_true] at broken
  rw [tells broken.1] at broken
  cases broken.2

theorem tells_settle (o : Occasion) (torn : Bool) (response : Response) :
    response.Tells o torn (settle o torn (.ok response)) := by
  refine ⟨settle_of_canBeTold, ?_⟩
  by_cases broken : (torn && response.body.tellsStandIn) = true
  · exact .inr ⟨(Bool.and_eq_true _ _ ▸ broken).1, if_pos broken⟩
  · exact .inl (if_neg broken)

theorem handle_search {q : QueryRequest}
    (fits : Request.read room QueryRequest.schema ⟨"POST", "/v1/search/smart", body⟩ = .ok q) :
    handleWithin room o r ⟨"POST", "/v1/search/smart", body⟩ =
      (settle o (Json.areTorn body) (search room o r q), r) := by
  rw [handleWithin, Route.find_search]
  simp only [follow, fits, Request.isTorn]

theorem handle_filter {f : FilterRequest}
    (fits : Request.read room FilterRequest.schema ⟨"POST", "/v1/search/filters", body⟩ = .ok f) :
    handleWithin room o r ⟨"POST", "/v1/search/filters", body⟩ =
      (settle o (Json.areTorn body) (filter o f), r) := by
  rw [handleWithin, Route.find_filter]
  simp only [follow, fits, Request.isTorn]

/-! ## A request of our days -/

theorem isDate_june15 : Calendar.IsDate 2024 6 15 := by
  decide

theorem isDate_june10 : Calendar.IsDate 2024 6 10 := by
  decide

/-- Noon of a day in June. -/
def juneNoon : Occasion :=
  ⟨⟨⟨2024, 6, 15, isDate_june15⟩, ⟨12, 0, 0, 0, by decide⟩, some .utc⟩, "query", 0, false⟩

/-- A contact that was added in the same week. -/
def newcomer : Contact :=
  ⟨1, "", "", none, none, none, none, none, .cold, none, [], none, none, none,
    ⟨⟨2024, 6, 10, isDate_june10⟩, .midnight, some .utc⟩, none⟩

/-- The newcomer in data. -/
def newcomerJson : Json :=
  .object [("id", .int 1), ("createdAt", .int 1717977600)]

theorem isReadable_newcomerJson : newcomerJson.IsReadable := by
  simp only [newcomerJson, Json.IsReadable, Json.AreReadableFields]
  decide

/-- The octets of a body. -/
def bodyOf (v : Json) : Text.Octets :=
  Text.Encoding.utf8.encode (Json.write v)

/-- A body whose encoding is seen is read as the value written there, if there is room for it. -/
theorem read_bodyOf {schema : Schema α} {v : Json} {a : α} (method path : String)
    (readable : v.IsReadable) (room_left : Json.Fits room v.depth)
    (seen : Json.detect (bodyOf v) = (.utf8, bodyOf v))
    (fits : schema.read v = .ok a) : Request.read room schema ⟨method, path, bodyOf v⟩ = .ok a := by
  have decoded : Json.readOctetsWithin room (bodyOf v) = .ok v :=
    Json.readOctetsWithin_write readable room_left seen
  refine Request.read_eq_ok_iff.mpr ⟨?_, v, decoded, fits⟩
  intro empty
  rw [show bodyOf v = [] from empty] at decoded
  cases decoded

end Service

end ContactSearch
