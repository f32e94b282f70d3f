import ContactSearch.Cap
import ContactSearch.Filter.Basic
import ContactSearch.Match.Basic

/-!
# Deals

The deals and organizations of an account, and how the deal filters choose among deals.
-/

namespace ContactSearch

/-- A deal as it is listed. -/
structure Deal where
  id : Int
  name : String
  sector : Option String
  status : String
  kind : String
deriving Repr, DecidableEq

/-- An organization as it is listed. -/
structure Organization where
  id : Int
  name : String
  kind : String
  sector : Option String
deriving Repr, DecidableEq

namespace Organization

/-- The sectors of listed organizations. Listings tell no sub-sector, and the last one of several
with one id counts. -/
def sectorMap (orgs : List Organization) : SectorMap :=
  KeyedList.ofPairs (orgs.map fun o => (o.id, ⟨o.sector, none⟩))

end Organization

namespace Deal

/-- The name of a deal contains the text that is looked for, if one is. -/
def hasName (wanted : Option String) (d : Deal) : Bool :=
  match nonEmpty? wanted with
  | none => true
  | some text => Match.occursIn text.lowered (some d.name)

/-- The sector of a deal contains the text that is looked for, if one is. -/
def hasSector (wanted : Option String) (d : Deal) : Bool :=
  match nonEmpty? wanted with
  | none => true
  | some text => Match.occursIn text.lowered d.sector

/-- The status of a deal is one of those looked for, if there is such a list. -/
def hasStatus (wanted : Option (List String)) (d : Deal) : Bool :=
  match wanted with
  | none => true
  | some statuses => !d.status.isEmpty && statuses.any fun s => s.lowered == d.status.lowered

/-- A deal satisfies every deal filter that is given. -/
def satisfies (f : Filters) (d : Deal) : Bool :=
  d.hasName f.dealName && d.hasSector f.dealSector && d.hasStatus f.dealStatus

/-- The deals that satisfy the deal filters, as listed. -/
def matching (f : Filters) (deals : List Deal) : List Deal :=
  deals.filter (satisfies f)

end Deal

/-- The matching deals whose details are worth fetching, at most so many. -/
def Deal.toExpand (limit : Int) (f : Filters) (deals : List Deal) : List Deal :=
  capped limit (matching f deals)

end ContactSearch
