import ContactSearch.Filter.Basic
import ContactSearch.Match.Basic
import ContactSearch.Recency

/-!
# Checks

Each filter is checked on its own. A check is inactive when its filter is not given, and otherwise
the contact misses it or matches it. The checks have their own table of scores; only sources are
compared by the rule for intents. Only the check of recency can fail.
-/

namespace ContactSearch

open Calendar Text

/-- What a check can find at a contact. -/
inductive FilterScore where
  | company
  | companyPart
  | name
  | nameStart
  | nameInside
  | title
  | warmth
  | time
  | location
  | email
  | tags
  | orgKind
  | orgSector
  | deal
deriving Repr, DecidableEq

/-- The score of what a check found. -/
@[simp] def FilterScore.points : FilterScore → Int
  | company => 100
  | companyPart => 80
  | name => 100
  | nameStart => 80
  | nameInside => 60
  | title => 60
  | warmth => 40
  | time => 30
  | location => 30
  | email => 50
  | tags => 40
  | orgKind => 70
  | orgSector => 70
  | deal => 90

/-- What a check says about a contact. -/
inductive Outcome where
  | inactive
  | missed
  | matched (m : Match)
deriving Repr, DecidableEq

namespace Outcome

/-- An active check that found this. -/
def ofMatch? : Option Match → Outcome
  | some m => matched m
  | none => missed

/-- The match of a check. -/
def match? : Outcome → Option Match
  | matched m => some m
  | _ => none

/-- The filter of a check is given. -/
def isActive : Outcome → Bool
  | inactive => false
  | _ => true

end Outcome

namespace Filters

/-- A check of a filter on text: inactive when none is given. -/
def checkText (given : Option String) (check : String → Option Match) : Outcome :=
  match nonEmpty? given with
  | none => .inactive
  | some text => .ofMatch? (check text)

/-- A check of a filter on lists: inactive when none is given or it is empty. -/
def checkList {α : Type} (given : Option (List α)) (check : List α → Option Match) : Outcome :=
  match given.filter fun l => !l.isEmpty with
  | none => .inactive
  | some l => .ofMatch? (check l)

/-- A contact whose organization is the one named, or contains its name, or is contained in it. -/
def atCompany? (name : String) (c : Contact) : Option Match :=
  match nonEmpty? c.org with
  | none => none
  | some org =>
    if org.lowered == name.lowered then
      some ⟨FilterScore.company.points, "Works at " ++ org⟩
    else if contains name.lowered org.lowered || contains org.lowered name.lowered then
      some ⟨FilterScore.companyPart.points, "Organization matches " ++ Match.quoted name⟩
    else none

/-- A contact whose full name is a text, or of whom some name starts with it, or whose full name
contains it. -/
def named? (text : String) (c : Contact) : Option Match :=
  let key := text.lowered
  let fullName := c.fullName.lowered
  if fullName == key then some ⟨FilterScore.name.points, "Name matches " ++ Match.quoted text⟩
  else if key.isPrefixOf fullName || key.isPrefixOf c.firstName.lowered ||
      key.isPrefixOf c.lastName.lowered then
    some ⟨FilterScore.nameStart.points, "Name starts with " ++ Match.quoted text⟩
  else if contains key fullName then
    some ⟨FilterScore.nameInside.points, "Name contains " ++ Match.quoted text⟩
  else none

/-- A contact whose title contains a text. -/
def titled? (text : String) (c : Contact) : Option Match :=
  ((nonEmpty? c.title).filter fun title => contains text.lowered title.lowered).map fun title =>
    ⟨FilterScore.title.points, "Title " ++ Match.quoted title ++ " matches " ++ Match.quoted text⟩

/-- A contact of one of these levels of warmth. -/
def warm? (levels : List Int) (c : Contact) : Option Match :=
  if levels.contains (c.warmth.level : Int) then
    some ⟨FilterScore.warmth.points, "Warmth: " ++ c.warmth.label⟩
  else none

/-- A contact in a place whose description contains a text. -/
def atLocation? (text : String) (c : Contact) : Option Match :=
  if contains text.lowered c.location.lowered then
    some ⟨FilterScore.location.points, "Location matches " ++ Match.quoted text⟩
  else none

/-- A contact whose address contains a text. -/
def atEmail? (text : String) (c : Contact) : Option Match :=
  if Match.occursIn text.lowered c.email then
    some ⟨FilterScore.email.points, "Email matches " ++ Match.quoted text⟩
  else none

/-- The texts that occur in some tag of a contact. -/
def foundTags (texts : List String) (c : Contact) : List String :=
  texts.filter fun text => c.tags.any fun tag => contains text.lowered tag.lowered

/-- A contact with a tag that contains one of the texts. -/
def tagged? (texts : List String) (c : Contact) : Option Match :=
  let found := foundTags texts c
  if found.isEmpty then none
  else some ⟨FilterScore.tags.points, "Tags: " ++ ", ".intercalate found⟩

/-- A contact at an organization of one of these kinds. -/
def ofOrgKind? (kinds : List String) (c : Contact) : Option Match :=
  match nonEmpty? c.orgKind with
  | none => none
  | some kind =>
    if kinds.any fun k => k.lowered == kind.lowered then
      some ⟨FilterScore.orgKind.points, "Organization type: " ++ kind⟩
    else none

/-- The sectors of the organization of a contact; the id zero stands for none. -/
def sectorsOf? (map : SectorMap) (c : Contact) : Option Sectors :=
  match c.orgId with
  | none => none
  | some id => if id = 0 then none else map.get? id

/-- A contact at an organization of which one sector contains a text. -/
def inSector? (map : SectorMap) (text : String) (c : Contact) : Option Match :=
  match sectorsOf? map c with
  | none => none
  | some s =>
    if Match.occursIn text.lowered s.sector || Match.occursIn text.lowered s.subSector then
      some ⟨FilterScore.orgSector.points,
        "Org sector: " ++ ((nonEmpty? s.sector).or s.subSector).getD ""⟩
    else none

/-- What a contact connected to the deals in question is said to be. -/
def dealReason (f : Filters) : String :=
  match nonEmpty? f.dealName, nonEmpty? f.dealSector with
  | some name, _ => "Connected to deal " ++ Match.quoted name
  | none, some sector => "Connected to " ++ sector ++ " deal"
  | none, none => "Connected to matching deal"

/-- The check of recency. -/
def checkRecency (f : Filters) (now : Timestamp) (c : Contact) : Except RecencyError Outcome :=
  match f.addedWithinDays.filter (· != 0) with
  | none => .ok .inactive
  | some days => do
    if ← Recency.within now days c.createdAt then
      return .matched
        ⟨FilterScore.time.points, "Added within last " ++ String.ofList (intText days) ++ " days"⟩
    else return .missed

/-- The check of sectors, active only when the sectors were looked up. -/
def checkSector (f : Filters) (context : FilterContext) (c : Contact) : Outcome :=
  match context.sectors with
  | none => .inactive
  | some map => checkText f.orgSector (inSector? map · c)

/-- The check of deals, active only when the contacts connected to them were looked up. -/
def checkDeals (f : Filters) (context : FilterContext) (c : Contact) : Outcome :=
  match context.matchedIds with
  | none => .inactive
  | some ids =>
    if f.namesDeals then
      if ids.contains c.id then .matched ⟨FilterScore.deal.points, f.dealReason⟩ else .missed
    else .inactive

/-- All checks of a contact, in the order of their reasons. -/
def outcomes (f : Filters) (context : FilterContext) (now : Timestamp) (c : Contact) :
    Except RecencyError (List Outcome) := do
  return [
    checkText f.company (atCompany? · c),
    checkText f.name (named? · c),
    checkText f.title (titled? · c),
    checkText f.source (Match.source? c.source ·),
    checkList f.warmth (warm? · c),
    ← checkRecency f now c,
    checkText f.location (atLocation? · c),
    checkText f.email (atEmail? · c),
    checkList f.tags (tagged? · c),
    checkList f.orgKind (ofOrgKind? · c),
    checkSector f context c,
    checkDeals f context c]

end Filters

end ContactSearch
