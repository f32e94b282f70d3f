import ContactSearch.Category
import ContactSearch.Text.Blank
import ContactSearch.Text.Case
import ContactSearch.Text.Unit

/-!
# Sources

A source is the acquisition channel through which a contact came in. The catalog lists the known
ones; `Source.resolve?` reads the free text kept on a contact as a catalog entry, and text that
names none of them becomes a source of its own in the category `other`.
-/

namespace ContactSearch

/-- A named acquisition channel. -/
structure Source where
  name : String
  category : Category
  description : Option String
deriving Repr, DecidableEq

namespace Source

/-- The sources every installation knows, in listing order. -/
def catalog : List Source :=
  [⟨"Referral", .relationship, some "Introduced by existing contact"⟩,
   ⟨"Warm Intro", .relationship, some "Warm introduction via mutual connection"⟩,
   ⟨"Existing Relationship", .relationship, some "Pre-existing professional relationship"⟩,
   ⟨"Co-Investor", .relationship, some "Met through co-investment"⟩,
   ⟨"Conference", .event, some "Met at a conference or summit"⟩,
   ⟨"Dinner / Event", .event, some "Met at a dinner or private event"⟩,
   ⟨"Roadshow", .event, some "Met during a roadshow"⟩,
   ⟨"LinkedIn", .digital, some "Connected via LinkedIn"⟩,
   ⟨"Email Campaign", .digital, some "Responded to email campaign"⟩,
   ⟨"Website", .digital, some "Inbound from website"⟩,
   ⟨"Cold Outreach", .outbound, some "Proactive cold outreach"⟩,
   ⟨"Cold Call", .outbound, some "Proactive cold call"⟩,
   ⟨"Research", .outbound, some "Identified through research"⟩,
   ⟨"Inbound", .inbound, some "Reached out to us directly"⟩,
   ⟨"RFP", .inbound, some "Responded to or sent RFP"⟩,
   ⟨"Other", .other, none⟩]

/-- Two sources are the same one when their names agree in lower case. -/
def sameName (a b : Source) : Bool :=
  a.name.lowered == b.name.lowered

/-- The name of a source holds what may stand for no character. -/
def namesStandIn (s : Source) : Bool :=
  s.name.toList.any Text.isStandIn

/-- The first catalog entry whose name in lower case is this text. -/
def inCatalog? (lowered : List Char) : Option Source :=
  catalog.find? fun s => s.name.lowered == lowered

/-- The text with every underscore read as a space. -/
def underscoresAsSpaces (s : List Char) : List Char :=
  s.map fun c => if c == '_' then ' ' else c

/-- The source that a text names: a catalog entry in any case, with blanks around it, and with
underscores for spaces; otherwise a source of that very name. Empty text names none. -/
def resolve? (text : String) : Option Source :=
  if text.isEmpty then none
  else
    let key := Text.trim text.lowered
    match inCatalog? key with
    | some s => some s
    | none =>
      match inCatalog? (underscoresAsSpaces key) with
      | some s => some s
      | none => some ⟨text, .other, none⟩

/-- The badge of the source that a text names, empty when it names none. -/
def badgeStyle (text : String) : String :=
  match resolve? text with
  | some s => s.category.display.badgeStyle
  | none => ""

end Source

end ContactSearch
