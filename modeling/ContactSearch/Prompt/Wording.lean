/-!
# Wording of the prompt

The fixed parts of the instructions for the classifier, line by line.
-/

namespace ContactSearch.Prompt

/-- Lines as one text. -/
def lines (ls : List String) : String :=
  "\n".intercalate ls

/-- What the classifier is asked to be. -/
def introduction : String :=
  "You are a search query parser for a CRM (Customer Relationship Management) application " ++
  "focused on deal-making, investments, and relationship management. Your job is to interpret " ++
  "natural language search queries about people/contacts and return structured JSON filters."

/-- What is known of a person. -/
def personSchema : String := lines [
  "## Person Schema",
  "Each person has these fields:",
  "- firstName, lastName: person's name",
  "- title: job title (e.g., \"Managing Director\", \"VP of Sales\", \"Analyst\")",
  "- org: organization/company name",
  "- orgKind: type of organization (e.g., \"fund\", \"company\", \"bank\", \"broker\", " ++
    "\"service_provider\")",
  "- email: email address",
  "- warmth: relationship warmth level (0=Cold, 1=Warm, 2=Hot, 3=Champion)",
  "- source: how the contact was acquired",
  "- tags: array of tag strings",
  "- city, state, country: location fields",
  "- createdAt: when the contact was added",
  "- lastContactedAt: when they were last contacted"]

/-- What the account is about. -/
def businessContext : String := lines [
  "## Business Context",
  "This CRM tracks deals (investments/transactions), organizations (funds, companies, banks, " ++
    "brokers), and people (contacts).",
  "- People can be connected to deals as investors (interests), sellers (blocks), or outreach " ++
    "targets.",
  "- Organizations have a kind (fund, company, bank, broker, service_provider) and may have a " ++
    "sector.",
  "- Deals have a name, sector, status, and kind."]

/-- The sources named when none are known. -/
def usualSources : String :=
  "LinkedIn, Conference, Referral, Cold Outreach, Email Campaign, Website, Warm Intro, " ++
  "Dinner/Event, Roadshow, Inbound, RFP, Co-Investor, Cold Call, Research, Existing Relationship"

/-- The kinds of organizations named when none are known. -/
def usualOrgKinds : String :=
  "fund, company, bank, broker, service_provider, other"

/-- The statuses of deals named when none are known. -/
def usualDealStatuses : String :=
  "live, sourcing, closing, closed, dead"

/-- Stands for an empty list without a usual one. -/
def noneProvided : String :=
  "(none provided)"

/-- The shape of the answer. -/
def outputFormat : String := lines [
  "## Output Format",
  "Return a JSON object with exactly these fields:",
  "\x7b",
  "  \"filters\": \x7b",
  "    \"name\": string | null,            // substring to match against first/last name",
  "    \"company\": string | null,          // substring to match against organization",
  "    \"title\": string | null,            // substring to match against job title",
  "    \"source\": string | null,           // exact source name (match to known sources)",
  "    \"warmth\": number[] | null,         // warmth levels to include, e.g. [2, 3]",
  "    \"location\": string | null,         // substring to match city/state/country",
  "    \"addedWithinDays\": number | null,  // contacts added within N days",
  "    \"email\": string | null,            // substring to match email",
  "    \"tags\": string[] | null,           // tags to match",
  "    \"orgKind\": string[] | null,        // organization types, e.g. [\"fund\", \"company\"]",
  "    \"orgSector\": string | null,        // organization sector to match",
  "    \"dealName\": string | null,         // deal name to match (finds people connected to " ++
    "this deal)",
  "    \"dealSector\": string | null,       // deal sector to match (finds people connected to " ++
    "deals in this sector)",
  "    \"dealStatus\": string[] | null      // deal statuses to match, e.g. [\"live\", " ++
    "\"closing\"]",
  "  \x7d,",
  "  \"explanation\": string,               // 1-sentence summary of what the query means",
  "  \"intents\": [                         // parsed intent chips for UI display",
  "    \x7b \"type\": string, \"label\": string \x7d",
  "  ]",
  "\x7d"]

/-- The rules of answering. -/
def rules : List String := [
  "Only set filter fields that are relevant to the query. Set irrelevant fields to null.",
  "For warmth: Cold=0, Warm=1, Hot=2, Champion=3. \"engaged\" means [2,3]. \"not cold\" means " ++
    "[1,2,3].",
  "For source: match the user's input to the closest known source name. \"LI\" or \"linkedin\" " ++
    "-> \"LinkedIn\". \"conference\" -> \"Conference\".",
  "For time: \"this week\" = 7 days, \"this month\" = 30, \"recently\"/\"new\" = 14-30, " ++
    "\"last quarter\" = 90.",
  "For title: extract role keywords like \"director\", \"VP\", \"analyst\", \"partner\", " ++
    "\"CEO\", etc.",
  "For company: try to match to known organizations. If not found, use the company name as-is.",
  "For orgKind: when the user mentions \"funds\", \"investors\" (as an org type), " ++
    "\"companies\", \"banks\", \"brokers\", set the appropriate values. Use lowercase. " ++
    "\"people at funds\" -> orgKind: [\"fund\"].",
  "For orgSector: when the user mentions an industry/sector for the organization, set this. " ++
    "\"companies in healthcare\" -> orgSector: \"healthcare\".",
  "For dealName: when the user asks about people related to a specific deal, set this to the " ++
    "deal name. Match to known deal names when possible. \"contacts related to SpaceX\" -> " ++
    "dealName: \"SpaceX\".",
  "For dealSector: when the user asks about people connected to deals in a certain sector, set " ++
    "this. \"investors in tech deals\" -> dealSector: \"technology\".",
  "For dealStatus: when the user references deal status, set this. \"investors in live deals\" " ++
    "-> dealStatus: [\"live\"].",
  "The \"intents\" array should have one entry per active filter, with a human-readable label.",
  "Intent type should be one of: \"company\", \"source\", \"role\", \"warmth\", \"time\", " ++
    "\"location\", \"name\", \"tag\", \"email\", \"orgKind\", \"orgSector\", \"dealName\", " ++
    "\"dealSector\", \"dealStatus\"."]

/-- What stands at the end. -/
def closing : String :=
  "Now parse the following user query and return the JSON:"

end ContactSearch.Prompt
