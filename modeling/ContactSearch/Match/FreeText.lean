import ContactSearch.Match.Basic

/-!
# Free text

Free text is compared with a contact tier by tier, from the full name down to the location, and
the first tier that applies gives the score.
-/

namespace ContactSearch

/-- The ways in which free text can match a contact. -/
inductive Tier where
  | nameExact
  | nameStart
  | nameInside
  | email
  | title
  | org
  | location
deriving Repr, DecidableEq

namespace Tier

open Text

/-- All tiers in the order they are tried. -/
def all : List Tier :=
  [nameExact, nameStart, nameInside, email, title, org, location]

/-- The score of a tier. -/
def weight : Tier → Int
  | nameExact => 100
  | nameStart => 80
  | nameInside => 60
  | email => 50
  | title => 40
  | org => 40
  | location => 30

/-- What the reason of a tier starts with. -/
def wording : Tier → String
  | nameExact => "Name matches "
  | nameStart => "Name starts with "
  | nameInside => "Name contains "
  | email => "Email contains "
  | title => "Title contains "
  | org => "Organization contains "
  | location => "Location matches "

/-- A text in lower case matches a contact in the way of a tier. -/
def applies (key : List Char) (c : Contact) : Tier → Bool
  | nameExact => c.fullName.lowered == key
  | nameStart =>
    key.isPrefixOf c.fullName.lowered || key.isPrefixOf c.firstName.lowered ||
      key.isPrefixOf c.lastName.lowered
  | nameInside => contains key c.fullName.lowered
  | email => Match.occursIn key c.email
  | title => Match.occursIn key c.title
  | org => Match.occursIn key c.org
  | location => contains key c.location.lowered

/-- The match of a tier. -/
def toMatch (text : String) (tier : Tier) : Match :=
  ⟨tier.weight, tier.wording ++ Match.quoted text⟩

end Tier

namespace Match

/-- Free text against a contact: the match of the first tier that applies. -/
def freeText? (text : String) (c : Contact) : Option Match :=
  (Tier.all.find? (Tier.applies text.lowered c)).map (Tier.toMatch text)

/-- Free text against a contact, with a score of zero when no tier applies. -/
def freeText (text : String) (c : Contact) : Match :=
  (freeText? text c).getD nothing

end Match

end ContactSearch
