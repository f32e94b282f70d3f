import ContactSearch.Proofs.Registry.Reading
import ContactSearch.Proofs.Service.Search

/-!
# Organizations that contacts make known

Where a request does not say which organizations there are, those of its contacts are known. Then a
company that is read in the query is the organization of some contact, and everyone who works there
is found by its name, however that is capitalized.
-/

namespace ContactSearch

open Query

/-- A contact of an organization matches its name in any case. -/
theorem Match.company?_of_lowered_eq {c : Contact} {name org : String} (works : c.org = some org)
    (given : name ≠ "") (same : org.lowered = name.lowered) :
    Match.company? name c = some ⟨100, "Works at " ++ org⟩ := by
  have named : org ≠ "" := by
    rintro rfl
    have empty : name.lowered = [] := same.symm.trans Text.lower_nil
    rw [String.lowered, Text.lower_eq_nil_iff, String.toList_eq_nil_iff] at empty
    exact given empty
  have there : nonEmpty? c.org = some org := by
    simp [works, nonEmpty?, named]
  rw [Match.company?, there]
  simp [same]

/-- A company that is read in a query is a known organization. -/
theorem Query.known_of_company {query : String} {orgs : List String} {sources : List Source}
    {i : Intent} (asked : i ∈ (parse query orgs sources).intents) (company : i.kind = .company) :
    i.value ∈ orgs ∧ 2 ≤ i.value.length := by
  cases reported_of_kind asked company (by decide) with
  | company listed long => exact ⟨listed, long⟩
  | _ => cases company

namespace Search

variable {now : Calendar.Timestamp} {query : ParsedQuery} {c : Contact} {i : Intent} {org : String}

/-- A search for a company finds whoever works there. -/
theorem exists_resultOf_of_company (asked : i ∈ query.intents) (company : i.kind = .company)
    (given : i.value ≠ "") (works : c.org = some org) (same : org.lowered = i.value.lowered) :
    ∃ r, resultOf now query c = some r ∧ r.contactId = c.id ∧
      r.Tells i ⟨100, "Works at " ++ org⟩ := by
  have hit : Match.intent? now i c = .ok (some ⟨100, "Works at " ++ org⟩) := by
    rw [Match.intent?, company]
    exact congrArg Except.ok (Match.company?_of_lowered_eq works given same)
  obtain ⟨r, found, contact, -⟩ := exists_resultOf_of_hit asked hit
  exact ⟨r, found, contact, tells_resultOf found asked hit⟩

end Search

namespace Service

variable {o : Occasion} {r : Registry} {q : QueryRequest} {body : Text.Octets} {room : Option Nat}

/-- A newcomer of an organization. -/
def colleague (id : Int) (org : String) : Contact :=
  { newcomer with id := id, org := some org }

/-- Such a newcomer in data. -/
def colleagueJson (id : Int) (org : String) : Json :=
  .object [("id", .int id), ("createdAt", .int 1717977600), ("org", .text org)]

/-- A query for those who work at an organization that two contacts spell differently. -/
def acmeQuery : Json :=
  .object [("query", .text "people at acme"),
    ("records", .array [colleagueJson 1 "Acme", colleagueJson 2 "ACME"])]

/-- Of two names of one length the first one is tried first. -/
theorem companyIntent_acme : companyIntent "Acme" ∈
    (parse "people at acme" ["Acme", "ACME"] (Source.catalog ++ [])).intents := by
  have order : companyOrder ["Acme", "ACME"] = ["Acme", "ACME"] := by
    rw [companyOrder, List.mergeSort_of_pairwise (by decide)]
    decide
  rw [intents_parse]
  apply List.mem_append_left
  rw [readSteps, steps]
  unfold extractCompany
  simp only [order]
  decide

end Service

end ContactSearch
