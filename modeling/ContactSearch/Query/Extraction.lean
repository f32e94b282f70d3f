import ContactSearch.Intent
import ContactSearch.Query.Keywords
import ContactSearch.Source
import ContactSearch.Text.Digit
import ContactSearch.Text.Find
import ContactSearch.Text.Pattern

/-!
# Extraction of intents

Each step looks for one kind of intent in the working text. It reports the first entry of its
table that occurs, in table order, and takes the occurrence out of the text, so that later steps
see only what earlier ones left. A step that finds nothing leaves the text alone.
-/

namespace ContactSearch.Query

open Text

/-- An intent that a step found, with the text it leaves to the next one. -/
structure Finding where
  intent : Intent
  rest : List Char
deriving Repr, DecidableEq

/-- The first pattern that occurs in the text decides where the intent is taken out. -/
def takeOut? (ps : List Pattern) (intent : Intent) (text : List Char) : Option Finding :=
  (ps.findSome? fun p => p.find? text).map fun cut => ⟨intent, cut.rest⟩

/-! ## Owners -/

/-- The ways to say that a person owns the contacts looked for. -/
def ownerPatterns (name : String) : List Pattern :=
  [.phrase ["sourced", "by", name],
   .spaced [.text (name ++ "'s"), .anyOf [.text "contacts", .text "people", .text "list"]],
   .phrase ["assigned", "to", name],
   .phrase ["owned", "by", name]]

/-- The intent for an owner. -/
def ownerIntent (o : Owner) : Intent :=
  ⟨.owner, String.ofList (natText o.number), "Owned by " ++ o.shown⟩

/-- "sourced by Gabe", "Brendan's contacts", "assigned to Chris", "owned by Gabriel". -/
def extractOwner (text : List Char) : Option Finding :=
  owners.findSome? fun o => takeOut? (ownerPatterns o.name) (ownerIntent o) text

/-! ## Time -/

/-- The intent for a span of time. -/
def timeIntent (phrase : String) (days : Nat) : Intent :=
  ⟨.time, String.ofList (natText days), "Added " ++ phrase⟩

/-- The first phrase that occurs in the whole query in lower case, also inside longer words. It
is taken out of the working text if it is still there. -/
def extractTime (lowered text : List Char) : Option Finding :=
  (timePhrases.find? fun (phrase, _) => contains phrase.toList lowered).map fun (phrase, days) =>
    let intent := timeIntent phrase days
    (takeOut? [.text phrase] intent text).getD ⟨intent, text⟩

/-! ## Warmth -/

/-- Levels joined by commas. -/
def levelsText (levels : List Warmth) : String :=
  ",".intercalate (levels.map fun w => String.ofList (natText w.level))

/-- The intent for a word of warmth. -/
def warmthIntent (word : String) (levels : List Warmth) : Intent :=
  ⟨.warmth, levelsText levels, "Warmth: " ++ word⟩

/-- The first word of warmth that stands alone in the text. -/
def extractWarmth (text : List Char) : Option Finding :=
  warmthWords.findSome? fun (word, levels) =>
    takeOut? [.word word] (warmthIntent word levels) text

/-! ## Sources -/

/-- "from LinkedIn", "via LinkedIn", "source: LinkedIn"; the blanks may be missing. -/
def beforeSource : Pattern :=
  .anyOf [.text "from", .text "via", .text "through", .phrase ["sourced", "from"],
    .seq (.text "source") (.optional (.text ":"))]

/-- The ways to name a source: a phrase around its name first, then the name alone if it is
longer than three characters. -/
def sourcePatterns (name : String) : List Pattern :=
  [.seq beforeSource (.seq (.blanks 0) (.text name)),
   .spaced [.text name, .anyOf [.text "contacts", .text "people", .text "source"]]] ++
    if 3 < name.length then [.word name] else []

/-- The intent for a source. -/
def sourceIntent (name : String) : Intent :=
  ⟨.source, name, "Source: " ++ name⟩

/-- The first source of the list that the text names. -/
def extractSource (sources : List Source) (text : List Char) : Option Finding :=
  sources.findSome? fun s => takeOut? (sourcePatterns s.name) (sourceIntent s.name) text

/-! ## Companies -/

/-- "at Apollo", "from Apollo", "people at Apollo", "who works at Apollo". -/
def beforeCompany : Pattern :=
  .anyOf [.text "at", .text "from", .phrase ["people", "at"], .phrase ["contacts", "at"],
    .phrase ["team", "at"],
    .spaced [.text "who", .seq (.text "work") (.optional (.text "s")), .text "at"]]

/-- The ways to name an organization: after a preposition, or as a word of its own. -/
def companyPatterns (org : String) : List Pattern :=
  [.spaced [beforeCompany, .text org], .word org]

/-- The intent for an organization. -/
def companyIntent (org : String) : Intent :=
  ⟨.company, org, "Company: " ++ org⟩

/-- The organizations in the order they are tried: the longest names first, equal lengths as
listed, and single characters not at all. -/
def companyOrder (orgs : List String) : List String :=
  (orgs.mergeSort fun a b => b.length ≤ a.length).filter fun org => 2 ≤ org.length

/-- The longest organization that the text names. -/
def extractCompany (orgs : List String) (text : List Char) : Option Finding :=
  (companyOrder orgs).findSome? fun org => takeOut? (companyPatterns org) (companyIntent org) text

/-! ## Roles -/

/-- The intent for a role. -/
def roleIntent (role : String) : Intent :=
  ⟨.role, role, "Role: " ++ role⟩

/-- The first role that stands alone in the text. -/
def extractRole (text : List Char) : Option Finding :=
  roles.findSome? fun role => takeOut? [.word role] (roleIntent role) text

/-! ## Left-over text -/

/-- A filler word that stands alone. -/
def fillerPattern : Pattern :=
  .seq .edge (.seq (.anyOf (fillers.map .text)) .edge)

/-- Takes out the filler words and squeezes the blanks. What is left counts as nothing when it is
a single character or holds no word character. -/
def stripFillers (text : List Char) : List Char :=
  let left := trim (squeeze (fillerPattern.erase text))
  if left.length ≤ 1 || !left.any isWordChar then [] else left

end ContactSearch.Query
