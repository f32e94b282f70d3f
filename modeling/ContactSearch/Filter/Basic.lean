import ContactSearch.Intent
import ContactSearch.KeyedList

/-!
# Filters

What a classifier makes of a query: up to fourteen filters, and beside them the data that some of
the filters need: the contacts connected to the deals in question and the sectors of organizations.
-/

namespace ContactSearch

/-- The filters of a classifier. -/
structure Filters where
  name : Option String
  company : Option String
  title : Option String
  source : Option String
  warmth : Option (List Int)
  location : Option String
  addedWithinDays : Option Int
  email : Option String
  tags : Option (List String)
  orgKind : Option (List String)
  orgSector : Option String
  dealName : Option String
  dealSector : Option String
  dealStatus : Option (List String)
deriving Repr, DecidableEq

/-- The sectors of an organization. -/
structure Sectors where
  sector : Option String
  subSector : Option String
deriving Repr, DecidableEq

/-- Sectors by the id of the organization. -/
abbrev SectorMap := KeyedList Int Sectors

/-- A label for an intent; the kind may be unknown. -/
structure Chip where
  kind : String
  label : String
deriving Repr, DecidableEq

/-- The data beside the filters. -/
structure FilterContext where
  /-- The contacts connected to the deals that the deal filters name, if these were looked up. -/
  matchedIds : Option (List Int)
  sectors : Option SectorMap
  chips : List Chip
deriving Repr, DecidableEq

namespace FilterContext

/-- No data. -/
def empty : FilterContext :=
  ⟨none, none, []⟩

/-- The chips of a known kind as intents without a value. -/
def intents (context : FilterContext) : List Intent :=
  context.chips.filterMap fun chip =>
    (IntentKind.ofCode? chip.kind).map fun kind => ⟨kind, "", chip.label⟩

end FilterContext

/-- A text is given and not empty. -/
def isGiven (s : Option String) : Bool :=
  s.any fun s => !s.isEmpty

/-- A list is given and not empty. -/
def isGivenList {α : Type} (l : Option (List α)) : Bool :=
  l.any fun l => !l.isEmpty

namespace Filters

/-- No filters. -/
def empty : Filters :=
  ⟨none, none, none, none, none, none, none, none, none, none, none, none, none, none⟩

/-- The filters name deals. An empty list of statuses counts, though it admits no deal. -/
def namesDeals (f : Filters) : Bool :=
  isGiven f.dealName || isGiven f.dealSector || f.dealStatus.isSome

/-- The filter on recency is given; a span of no days counts as none. -/
def limitsRecency (f : Filters) : Bool :=
  f.addedWithinDays.any (· != 0)

/-- The number of filters that a contact has to satisfy. Those on sectors and deals count only
where the data for them is there. -/
def activeCount (f : Filters) (context : FilterContext) : Nat :=
  ([isGiven f.company, isGiven f.name, isGiven f.title, isGiven f.source, isGivenList f.warmth,
    f.limitsRecency, isGiven f.location, isGiven f.email, isGivenList f.tags,
    isGivenList f.orgKind, isGiven f.orgSector && context.sectors.isSome,
    f.namesDeals && context.matchedIds.isSome]).count true

end Filters

end ContactSearch
