import ContactSearch.Calendar.Timestamp
import ContactSearch.Warmth

/-!
# Contacts

The people that are searched, as far as a search looks at them.
-/

namespace ContactSearch

open Calendar

/-- A person in the address book. -/
structure Contact where
  id : Int
  firstName : String
  lastName : String
  title : Option String
  org : Option String
  orgId : Option Int
  orgKind : Option String
  email : Option String
  warmth : Warmth
  source : Option String
  tags : List String
  city : Option String
  state : Option String
  country : Option String
  createdAt : Timestamp
  lastContactedAt : Option Timestamp
deriving DecidableEq

/-- A text that is there and not empty. -/
def nonEmpty? (s : Option String) : Option String :=
  s.filter fun s => !s.isEmpty

namespace Contact

/-- First and last name with a space between them. -/
def fullName (c : Contact) : String :=
  c.firstName ++ " " ++ c.lastName

/-- City, state and country with spaces between them; what is empty is left out. -/
def location (c : Contact) : String :=
  " ".intercalate ([c.city, c.state, c.country].filterMap nonEmpty?)

end Contact

end ContactSearch
