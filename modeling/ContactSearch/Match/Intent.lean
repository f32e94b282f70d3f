import ContactSearch.Intent
import ContactSearch.Match.FreeText
import ContactSearch.Recency
import ContactSearch.Text.Numeral
import ContactSearch.Text.Split

/-!
# Intents against contacts

Each kind of intent looks at one side of a contact. Contacts do not tell their owner, so intents on
owners match nothing, and the kinds that only a classifier produces match nothing here either. Only
an intent on time can fail: when its span of days has no start.
-/

namespace ContactSearch.Match

open Calendar Text

/-- The levels that the value of an intent on warmth lists, if all of it can be read. -/
def levels? (value : String) : Option (List Int) :=
  (split ',' value.toList).mapM readInt?

/-- The first tag that contains a text. -/
def tag? (text : String) (c : Contact) : Option Match :=
  (c.tags.find? fun tag => contains text.lowered tag.lowered).map fun tag =>
    ⟨IntentScore.tag.points, "Tagged: " ++ tag⟩

/-- A contact added within so many days. -/
def added? (now : Timestamp) (days : Int) (c : Contact) : Except RecencyError (Option Match) := do
  if ← Recency.within now days c.createdAt then
    return some
      ⟨IntentScore.time.points, "Added " ++ String.ofList (Recency.ageText now c.createdAt)⟩
  else return none

/-- An intent on time against a contact; a value that is no number matches nothing. -/
def time? (now : Timestamp) (value : String) (c : Contact) : Except RecencyError (Option Match) :=
  match readInt? value.toList with
  | none => .ok none
  | some days => added? now days c

/-- An intent against a contact. -/
def intent? (now : Timestamp) (i : Intent) (c : Contact) : Except RecencyError (Option Match) :=
  match i.kind with
  | .company => .ok (company? i.value c)
  | .source => .ok (source? c.source i.value)
  | .role => .ok (role? i.value c)
  | .warmth => .ok ((levels? i.value).bind fun levels => warmth? levels c)
  | .time => time? now i.value c
  | .tag => .ok (tag? i.value c)
  | .name => .ok (freeText? i.value c)
  | _ => .ok none

end ContactSearch.Match
