import ContactSearch.Json.Writer
import ContactSearch.Wire.Filter

/-!
# Examples in the prompt

Queries with the answers that the classifier should give to them.
-/

namespace ContactSearch.Prompt

/-- A query with its answer. -/
structure Example where
  query : String
  filters : Filters
  explanation : String
  chips : List Chip

/-- The examples in order. -/
def examples : List Example := [
  ⟨"directors at Blackstone",
    { Filters.empty with company := some "Blackstone", title := some "director" },
    "People with Director in their title at Blackstone",
    [⟨"role", "Role: Director"⟩, ⟨"company", "Company: Blackstone"⟩]⟩,
  ⟨"warm contacts from LinkedIn added recently",
    { Filters.empty with
      source := some "LinkedIn", warmth := some [1], addedWithinDays := some 30 },
    "Warm contacts sourced from LinkedIn that were added in the last 30 days",
    [⟨"warmth", "Warmth: Warm"⟩, ⟨"source", "Source: LinkedIn"⟩, ⟨"time", "Added recently"⟩]⟩,
  ⟨"people at funds",
    { Filters.empty with orgKind := some ["fund"] },
    "People who work at fund-type organizations",
    [⟨"orgKind", "Org Type: Fund"⟩]⟩,
  ⟨"contacts related to SpaceX",
    { Filters.empty with dealName := some "SpaceX" },
    "All people connected to the SpaceX deal as investors, sellers, or outreach targets",
    [⟨"dealName", "Deal: SpaceX"⟩]⟩,
  ⟨"directors at companies in healthcare",
    { Filters.empty with
      title := some "director", orgKind := some ["company"], orgSector := some "healthcare" },
    "Directors at company-type organizations in the healthcare sector",
    [⟨"role", "Role: Director"⟩, ⟨"orgKind", "Org Type: Company"⟩,
     ⟨"orgSector", "Org Sector: Healthcare"⟩]⟩,
  ⟨"investors in live deals",
    { Filters.empty with dealStatus := some ["live"] },
    "People who are investors in currently live deals",
    [⟨"dealStatus", "Deal Status: Live"⟩]⟩,
  ⟨"VPs in New York",
    { Filters.empty with title := some "VP", location := some "New York" },
    "Vice Presidents located in New York",
    [⟨"role", "Role: VP"⟩, ⟨"location", "Location: New York"⟩]⟩,
  ⟨"john smith",
    { Filters.empty with name := some "john smith" },
    "Searching for a person named John Smith",
    [⟨"name", "Name: john smith"⟩]⟩]

namespace Example

/-- The answer of an example as data. -/
def answer (e : Example) : Json :=
  .object [
    ("filters", Filters.schema.write e.filters),
    ("explanation", .text e.explanation),
    ("intents", .array (e.chips.map Chip.schema.write))]

/-- The text of an example. -/
def render (e : Example) : String :=
  "Query: \"" ++ e.query ++ "\"\n" ++ String.ofList (e.answer.writeIndented 0)

end Example

end ContactSearch.Prompt
