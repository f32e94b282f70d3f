import ContactSearch.Cap
import ContactSearch.Prompt.Example
import ContactSearch.Prompt.Wording

/-!
# The prompt

The instructions given to the external classifier. They list what the account knows, so that the
classifier answers in names that the filters can match.
-/

namespace ContactSearch.Prompt

/-- What an account knows. -/
structure Known where
  orgs : List String
  sources : List String
  dealNames : List String
  dealSectors : List String
  dealStatuses : List String
  orgKinds : List String
  orgSectors : List String

/-- The greatest number of deal names and of sectors that are listed. -/
def listingLimit : Int := 50

/-- A listing of names, or what stands for an empty one. The limit zero is none. -/
def listing (names : List String) (whenEmpty : String) (limit : Int) : String :=
  if names.isEmpty then whenEmpty
  else ", ".intercalate (if limit = 0 then names else capped limit names)

/-- A section under a heading. -/
def headed (heading body : String) : String :=
  "## " ++ heading ++ "\n" ++ body

/-- The sections of the prompt. -/
def sections (known : Known) (maxOrgs : Int) : List String := [
  introduction,
  personSchema,
  businessContext,
  headed "Known Organizations" (listing known.orgs noneProvided maxOrgs),
  headed "Known Sources" (listing known.sources usualSources 0),
  headed "Known Organization Types" (listing known.orgKinds usualOrgKinds 0),
  headed "Known Organization Sectors" (listing known.orgSectors noneProvided listingLimit),
  headed "Known Deal Names" (listing known.dealNames noneProvided listingLimit),
  headed "Known Deal Sectors" (listing known.dealSectors noneProvided 0),
  headed "Known Deal Statuses" (listing known.dealStatuses usualDealStatuses 0),
  outputFormat,
  headed "Rules" (lines (rules.map fun rule => "- " ++ rule)),
  headed "Examples" ("\n" ++ "\n\n".intercalate (examples.map Example.render)),
  closing]

/-- The whole prompt. -/
def render (known : Known) (maxOrgs : Int) : String :=
  "\n\n".intercalate (sections known maxOrgs)

end ContactSearch.Prompt
