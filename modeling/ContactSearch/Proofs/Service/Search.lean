import ContactSearch.Proofs.Json.RoundTrip
import ContactSearch.Proofs.KeyedList
import ContactSearch.Proofs.Registry.Reading
import ContactSearch.Proofs.Search.Success
import ContactSearch.Proofs.Service.Request
import ContactSearch.Proofs.Text.Blanks

/-!
# Answers to queries

A query that holds nothing but blanks is refused. Any other one is read with the sources that can be
found and the organizations that are known, and what the search finds is told, whatever stands in the
file of the custom sources. The service breaks in two ways only: the file is nested too deeply to be
read, or the body is torn and the answer tells of that.
-/

namespace ContactSearch

open Wire

/-- There is nothing to look for in the query. -/
def QueryRequest.IsBlank (q : QueryRequest) : Prop :=
  ∀ c ∈ q.query.toList, Text.isBlank c = true

/-- The organizations that a query is read with: those that stand in the data or, where the field
is absent or null, those of the contacts, each where it is first seen. -/
structure QueryRequest.KnowsOrgs (given : KeyedList String Json) (q : QueryRequest)
    (orgs : List String) : Prop where
  listed : ∀ v, fieldValue? "known_orgs" "knownOrgs" given = some v → v ≠ .null →
    (Schema.list .text).read v = .ok orgs
  unlisted : fieldValue? "known_orgs" "knownOrgs" given = none ∨
      fieldValue? "known_orgs" "knownOrgs" given = some .null →
    orgs = (q.contacts.filterMap fun c => nonEmpty? c.org).eraseDups

/-- What is told of a query that is read with these organizations and custom sources. -/
def QueryRequest.answer (o : Occasion) (orgs : List String) (custom : List Source)
    (results : List SearchResult) (q : QueryRequest) : Response :=
  .ok (QueryResponse.schema.write
    ⟨o.queryId, Query.parse q.query orgs (Source.catalog ++ custom), results, some o.latencyMs⟩)

/-- How a query is answered that is read with these organizations and with the custom sources of a
registry, where there is this room and the body may be torn. -/
structure QueryRequest.IsAnswered (room : Option Nat) (o : Occasion) (r : Registry)
    (orgs : List String) (custom : List Source) (torn : Bool) (q : QueryRequest)
    (response : Response) : Prop where
  status : (response.status = 400 ∧ q.IsBlank) ∨ (response.status = 200 ∧ ¬ q.IsBlank) ∨
    (response.status = 500 ∧ ¬ q.IsBlank ∧ (r.overflow? room ≠ none ∨ torn = true))
  blank : q.IsBlank → response = .noQuery
  tooDeep : ¬ q.IsBlank → ∀ c, r.overflow? room = some c → response = .broken o.debug (.tooDeep c)
  found : ¬ q.IsBlank → r.overflow? room = none → ∃ given results, r.Gives custom given ∧
    Search.run o.now (Query.parse q.query orgs (Source.catalog ++ given)) q.contacts = .ok results ∧
      (q.answer o orgs given results).Tells o torn response

namespace Service

variable {o : Occasion} {r : Registry} {q : QueryRequest}

theorem orgsOf_eq (contacts : List Contact) :
    orgsOf contacts = (contacts.filterMap fun c => nonEmpty? c.org).eraseDups := by
  rw [orgsOf, KeyedList.keys_ofPairs, KeyedList.keys, List.map_map]
  exact congrArg List.eraseDups (List.map_id _)

/-- A request that was read knows the organizations that a search takes. -/
theorem knowsOrgs_of_read {given : KeyedList String Json}
    (fits : QueryRequest.schema.read (.object given) = .ok q) :
    q.KnowsOrgs given (knownOrgs q) := by
  obtain ⟨_, same, fields⟩ := Schema.read_record_eq_ok_iff.mp fits
  cases same
  obtain ⟨_, orgs?, records, rfl, field⟩ := Fields.read_maybe_eq_ok_iff.mp fields
  obtain ⟨_, contacts, text, -, rfl⟩ := Fields.read_snoc_eq_ok_iff.mp records
  obtain ⟨_, -, query, none, -, -, rfl⟩ := Fields.read_required_eq_ok_iff.mp text
  rw [Fields.read_nil] at none
  cases none
  rcases field with ⟨missing, rfl⟩ | ⟨v, orgs, found, there, read, rfl⟩
  · constructor
    · intro v found there
      rw [found] at missing
      rcases missing with absent | null
      · cases absent
      · exact absurd (Option.some.inj null) there
    · intro _
      exact orgsOf_eq contacts
  · constructor
    · intro v' found' _
      rw [found] at found'
      cases found'
      exact read
    · intro missing
      rw [found] at missing
      rcases missing with absent | null
      · cases absent
      · exact absurd (Option.some.inj null) there

theorem trim_isEmpty_iff : (Text.trim q.query.toList).isEmpty = true ↔ q.IsBlank := by
  rw [List.isEmpty_iff, Text.trim, Text.trimBy_eq_nil_iff, QueryRequest.IsBlank]

variable {room : Option Nat} {torn : Bool} {custom : List Source}

theorem search_of_blank (blank : q.IsBlank) : search room o r q = .ok .noQuery := by
  rw [search, if_pos (trim_isEmpty_iff.mpr blank)]
  rfl

theorem search_of_overflow {c : Json.Compound} (given : ¬ q.IsBlank)
    (overflows : r.overflow? room = some c) : search room o r q = .error (.tooDeep c) := by
  rw [search, if_neg fun empty => given (trim_isEmpty_iff.mp empty),
    Registry.sourcesWithin_of_overflow overflows]
  rfl

/-- A search finds something, unless the clock shows the first year. -/
theorem exists_findings (late : 2 ≤ o.now.date.year) (custom : List Source) (q : QueryRequest) :
    ∃ results, Search.run o.now (Query.parse q.query (knownOrgs q) (Source.catalog ++ custom))
        q.contacts = .ok results ∧
      findings o (Source.catalog ++ custom) q =
        .ok (Query.parse q.query (knownOrgs q) (Source.catalog ++ custom), results) := by
  obtain ⟨results, ran⟩ := Search.run_parse_succeeds late q.query (knownOrgs q)
    (Source.catalog ++ custom) q.contacts
  refine ⟨results, ran, ?_⟩
  rw [findings, ran]
  rfl

theorem search_of_findings {results : List SearchResult} (given : ¬ q.IsBlank)
    (read : r.customWithin room = .ok custom)
    (found : findings o (Source.catalog ++ custom) q =
      .ok (Query.parse q.query (knownOrgs q) (Source.catalog ++ custom), results)) :
    search room o r q = .ok (q.answer o (knownOrgs q) custom results) := by
  rw [search, if_neg fun empty => given (trim_isEmpty_iff.mp empty),
    Registry.sourcesWithin_of_customWithin read]
  show (findings o _ q).mapError Fault.recency >>= _ = _
  rw [found]
  rfl

/-- A search is answered, unless the clock shows the first year. -/
theorem isAnswered_search (late : 2 ≤ o.now.date.year) (readable : r.custom = .ok custom) :
    q.IsAnswered room o r (knownOrgs q) custom torn (settle o torn (search room o r q)) := by
  by_cases blank : q.IsBlank
  · rw [search_of_blank blank, settle_of_canBeTold fun _ => rfl]
    exact ⟨.inl ⟨rfl, blank⟩, fun _ => rfl, fun given => absurd blank given,
      fun given => absurd blank given⟩
  cases overflow : r.overflow? room with
  | some c =>
    rw [search_of_overflow blank overflow]
    refine ⟨.inr (.inr ⟨rfl, blank, .inl (by simp [overflow])⟩), fun given => absurd given blank,
      ?_, ?_⟩
    · intro _ c' same
      rw [overflow] at same
      cases same
      rfl
    · intro _ within
      rw [overflow] at within
      cases within
  | none =>
    obtain ⟨given, gives, read⟩ := Registry.exists_customWithin overflow readable
    obtain ⟨results, ran, found⟩ := exists_findings late given q
    have tells := tells_settle o torn (q.answer o (knownOrgs q) given results)
    rw [search_of_findings blank read found]
    refine ⟨?status, fun given => absurd given blank, ?_,
      fun _ _ => ⟨given, results, gives, ran, tells⟩⟩
    case status =>
      rcases tells.torn with told | ⟨isTorn, broken⟩
      · exact .inr (.inl ⟨by rw [told]; rfl, blank⟩)
      · exact .inr (.inr ⟨by rw [broken]; rfl, blank, .inr isTorn⟩)
    · intro _ c same
      rw [overflow] at same
      cases same

/-- A registry over a file that is no text. -/
def brokenRegistry : Registry :=
  .overFile [0xFF]

/-- A query over one contact, without known organizations. -/
def newQuery : Json :=
  .object [("query", .text "new"), ("records", .array [newcomerJson]), ("knownOrgs", .null)]

/-- An answer tells the query. -/
theorem tellsStandIn_answer (orgs : List String) (custom : List Source)
    (results : List SearchResult) (tells : q.query.toList.any Text.isStandIn = true) :
    (q.answer o orgs custom results).body.tellsStandIn = true := by
  have raw : (ParsedQuery.schema.write
      (Query.parse q.query orgs (Source.catalog ++ custom))).tellsStandIn = true :=
    Json.tellsStandIn_of_mem [("raw", .text q.query), _, _] List.mem_cons_self tells
  exact Json.tellsStandIn_of_mem [_, ("parsed", _), _, _]
    (List.mem_cons_of_mem _ List.mem_cons_self) raw

/-- The text of a body with the query `\ud800`, a unit of a pair that stands alone in an escape. -/
def tornText : List Char :=
  '\x7b' :: (Json.writeString "query" ++ ':' :: ' ' :: "\"\\ud800\"\x7d".toList)

/-- The body with that text. -/
def tornBody : Text.Octets :=
  Text.Encoding.utf8.encode tornText

/-- What is read of it. -/
def tornQuery : QueryRequest :=
  ⟨String.ofList [Text.standIn 0xD800], [], none⟩

theorem readWithin_tornText :
    Json.readWithin Json.usualRoom tornText = .ok (.object [("query", .text tornQuery.query)]) := by
  have starts : Json.StartsValue "\"\\ud800\"\x7d".toList :=
    ⟨'"', _, rfl, by decide, by decide, by decide⟩
  have value : Json.readValue (some 989) 38 "\"\\ud800\"\x7d".toList =
      .ok (.text tornQuery.query, ['\x7d']) := rfl
  have there : Json.inside? Json.usualRoom = some (some 989) := rfl
  have read := Json.readValue_object there
    ((Json.startsValue_writeString "query").append _) (Json.readPairs_last starts value)
  have gap : Json.skipGap tornText = tornText := List.dropWhile_cons_of_neg (by decide)
  have length : 2 * tornText.length + 2 = 40 := by decide
  have one : KeyedList.ofPairs [("query", Json.text tornQuery.query)] =
      [("query", .text tornQuery.query)] :=
    KeyedList.ofPairs_of_nodup (List.nodup_singleton _)
  rw [one] at read
  rw [Json.readWithin, length, gap, tornText, read]
  rfl

theorem read_queryAlone (text : String) :
    QueryRequest.schema.read (.object [("query", .text text)]) = .ok ⟨text, [], none⟩ := rfl

end Service

end ContactSearch
