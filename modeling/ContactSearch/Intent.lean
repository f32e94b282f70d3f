/-!
# Intents

An intent is one typed piece of meaning: what kind it is, the value to match, and the label shown
for it.
-/

namespace ContactSearch

/-- The kinds of meaning that a query, or the classifier, can carry. -/
inductive IntentKind where
  | owner
  | role
  | warmth
  | time
  | source
  | company
  | tag
  | name
  | location
  | email
  | orgKind
  | orgSector
  | dealName
  | dealSector
  | dealStatus
deriving Repr, DecidableEq

namespace IntentKind

/-- All kinds. -/
def all : List IntentKind :=
  [owner, role, warmth, time, source, company, tag, name, location, email, orgKind, orgSector,
   dealName, dealSector, dealStatus]

/-- The name of a kind in data. -/
def code : IntentKind → String
  | owner => "owner"
  | role => "role"
  | warmth => "warmth"
  | time => "time"
  | source => "source"
  | company => "company"
  | tag => "tag"
  | name => "name"
  | location => "location"
  | email => "email"
  | orgKind => "orgKind"
  | orgSector => "orgSector"
  | dealName => "dealName"
  | dealSector => "dealSector"
  | dealStatus => "dealStatus"

/-- The kind of a name, which has to be spelled exactly. -/
def ofCode? (s : String) : Option IntentKind :=
  all.find? fun k => k.code == s

theorem ofCode?_code (k : IntentKind) : ofCode? k.code = some k := by
  cases k <;> decide

end IntentKind

/-- One typed piece of meaning. The value depends on the kind: warmth levels joined by commas, a
number of days, and otherwise the phrase that was matched. -/
structure Intent where
  kind : IntentKind
  value : String
  label : String
deriving Repr, DecidableEq

end ContactSearch
