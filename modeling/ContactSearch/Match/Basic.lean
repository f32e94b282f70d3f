import ContactSearch.Contact
import ContactSearch.Source
import ContactSearch.Text.Find

/-!
# Matches

A match is a score and the reason shown for it. The intents of a query have their own table of
scores, and so have free text and the filters of a classifier. Sources alone are compared by one rule
for intents and filters. Texts are compared in lower case.
-/

namespace ContactSearch

/-- A score with the reason for it. -/
structure Match where
  score : Int
  reason : String
deriving Repr, DecidableEq

/-- What an intent can find at a contact, free text apart. -/
inductive IntentScore where
  | companyExact
  | companyPart
  | sourceExact
  | sourceCategory
  | role
  | warmth
  | time
  | tag
deriving Repr, DecidableEq

/-- The score of what an intent found. -/
@[simp] def IntentScore.points : IntentScore → Int
  | companyExact => 100
  | companyPart => 80
  | sourceExact => 50
  | sourceCategory => 30
  | role => 60
  | warmth => 40
  | time => 30
  | tag => 40

namespace Match

open Text

/-- Scores nothing. -/
def nothing : Match :=
  ⟨0, ""⟩

/-- A text in quotation marks. -/
def quoted (s : String) : String :=
  "\"" ++ s ++ "\""

/-- The key occurs in a text that is there and not empty. -/
def occursIn (key : List Char) (s : Option String) : Bool :=
  (nonEmpty? s).any fun s => contains key s.lowered

/-- A text that occurs is one that is there and contains the key in lower case. -/
theorem exists_of_occursIn {key : List Char} {s : Option String} (occurs : occursIn key s = true) :
    ∃ text, s = some text ∧ key <:+: text.lowered := by
  obtain ⟨text, given, inside⟩ := (Option.any_eq_true _ _).mp occurs
  obtain ⟨same, -⟩ := Option.filter_eq_some_iff.mp given
  exact ⟨text, same, contains_iff.mp inside⟩

/-- A key that is not empty occurs in every text that contains it in lower case. -/
theorem occursIn_of_infix {key : List Char} (given : key ≠ []) {text : String}
    (inside : key <:+: text.lowered) : occursIn key (some text) = true := by
  have there : text ≠ "" := by
    rintro rfl
    exact given (List.eq_nil_of_infix_nil inside)
  simpa [occursIn, nonEmpty?, Option.filter, there] using contains_iff.mpr inside

/-- A contact whose organization is the one named, or contains its name, or is contained in it. -/
def company? (name : String) (c : Contact) : Option Match :=
  match nonEmpty? c.org with
  | none => none
  | some org =>
    if org.lowered == name.lowered then
      some ⟨IntentScore.companyExact.points, "Works at " ++ org⟩
    else if contains name.lowered org.lowered || contains org.lowered name.lowered then
      some ⟨IntentScore.companyPart.points, "Organization matches " ++ quoted name⟩
    else none

/-- A source text against a source looked for: the same source, or another one of its category. -/
def source? (given : Option String) (target : String) : Option Match :=
  match given.bind Source.resolve? with
  | none => none
  | some source =>
    if source.name.lowered == target.lowered then
      some ⟨IntentScore.sourceExact.points, "Source: " ++ source.name⟩
    else match Source.resolve? target with
      | none => none
      | some wanted =>
        if source.category = wanted.category then
          some ⟨IntentScore.sourceCategory.points, "Source category: " ++ source.category.name⟩
        else none

/-- A contact whose title contains the name of a role. -/
def role? (text : String) (c : Contact) : Option Match :=
  match nonEmpty? c.title with
  | none => none
  | some title =>
    if contains text.lowered title.lowered then
      some ⟨IntentScore.role.points, "Title " ++ quoted title ++ " matches role " ++ quoted text⟩
    else none

/-- A contact of one of these levels of warmth. -/
def warmth? (levels : List Int) (c : Contact) : Option Match :=
  if levels.contains (c.warmth.level : Int) then
    some ⟨IntentScore.warmth.points, "Warmth: " ++ c.warmth.label⟩
  else none

end Match

end ContactSearch
