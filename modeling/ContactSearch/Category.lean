/-!
# Categories of sources

The fixed grouping of acquisition channels, with how each group is displayed.
-/

namespace ContactSearch

/-- A group of acquisition channels. -/
inductive Category where
  | relationship
  | event
  | digital
  | outbound
  | inbound
  | other
deriving Repr, DecidableEq

namespace Category

/-- All categories in display order; the last one takes whatever fits nowhere else. -/
def all : List Category :=
  [relationship, event, digital, outbound, inbound, other]

/-- The name of a category in data. -/
def name : Category → String
  | relationship => "relationship"
  | event => "event"
  | digital => "digital"
  | outbound => "outbound"
  | inbound => "inbound"
  | other => "other"

/-- The category of a name, which has to be spelled exactly. -/
def ofName? (s : String) : Option Category :=
  all.find? fun c => c.name == s

theorem ofName?_name (c : Category) : ofName? c.name = some c := by
  cases c <;> decide

end Category

/-- How a category is displayed. -/
structure CategoryDisplay where
  category : Category
  label : String
  color : String
  badgeStyle : String
deriving Repr, DecidableEq

namespace Category

/-- The display of each category. -/
def display : Category → CategoryDisplay
  | relationship => ⟨relationship, "Relationship", "bg-violet-500", "bg-violet-50 text-violet-700"⟩
  | event => ⟨event, "Event", "bg-amber-500", "bg-amber-50 text-amber-700"⟩
  | digital => ⟨digital, "Digital", "bg-sky-500", "bg-sky-50 text-sky-700"⟩
  | outbound => ⟨outbound, "Outbound", "bg-emerald-500", "bg-emerald-50 text-emerald-700"⟩
  | inbound => ⟨inbound, "Inbound", "bg-blue-500", "bg-blue-50 text-blue-700"⟩
  | other => ⟨other, "Other", "bg-muted-foreground", "bg-muted text-muted-foreground"⟩

/-- The display of the category of a name; a name that is none is shown as `other`. -/
def displayOfName (s : String) : CategoryDisplay :=
  ((ofName? s).getD other).display

end Category

end ContactSearch
