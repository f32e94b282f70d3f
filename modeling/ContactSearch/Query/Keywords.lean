import ContactSearch.Warmth

/-!
# Keywords

The words and phrases that a query is searched for. The order of each table is the order in which
its entries are tried.
-/

namespace ContactSearch.Query

/-- A person who can own contacts: the name looked for, the name shown, and a number. -/
structure Owner where
  name : String
  shown : String
  number : Nat
deriving Repr, DecidableEq

/-- The owners; two names may belong to one owner. -/
def owners : List Owner :=
  [⟨"brendan", "Brendan", 1⟩, ⟨"chris", "Chris", 2⟩, ⟨"gabe", "Gabe", 3⟩,
   ⟨"gabriel", "Gabriel", 3⟩]

/-- Words for warmth with the levels that they admit. -/
def warmthWords : List (String × List Warmth) :=
  [("cold", [.cold]),
   ("warm", [.warm]),
   ("hot", [.hot]),
   ("champion", [.champion]),
   ("champions", [.champion]),
   ("engaged", [.hot, .champion]),
   ("not cold", [.warm, .hot, .champion])]

/-- Phrases for a span of time with its length in days. -/
def timePhrases : List (String × Nat) :=
  [("this week", 7),
   ("this month", 30),
   ("last week", 7),
   ("last month", 30),
   ("last quarter", 90),
   ("this quarter", 90),
   ("last year", 365),
   ("this year", 365),
   ("recent", 30),
   ("recently", 30),
   ("new", 14),
   ("past week", 7),
   ("past month", 30)]

/-- Words for a role. -/
def roles : List String :=
  ["ceo", "cfo", "coo", "cto", "cio", "cmo",
   "partner", "partners",
   "director", "directors",
   "managing director", "md",
   "vice president", "vp",
   "analyst", "analysts",
   "associate", "associates",
   "principal", "principals",
   "head of", "head",
   "manager", "managers",
   "founder", "founders", "co-founder",
   "president",
   "portfolio manager", "pm",
   "investor relations", "ir"]

/-- Words that carry no meaning of their own in a query. -/
def fillers : List String :=
  ["show", "find", "search", "list", "get", "all", "the", "for", "me", "who", "are", "is", "with",
   "and", "or", "contacts", "people", "outreach"]

end ContactSearch.Query
