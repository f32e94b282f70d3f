import ContactSearch.Match.Basic

/-!
# Which source a text names

A text is looked up in the catalog twice, as it stands and with its underscores read as spaces. No
name of the catalog has an underscore, so the second look finds whatever the first one does. A text
that spells no entry is a source of its own, and counts as one of the category `other`.
-/

namespace ContactSearch

namespace Source

/-- The catalog entry that a text spells: in any case, with blanks around it, and with underscores
for spaces. -/
def spelled? (text : String) : Option Source :=
  inCatalog? (underscoresAsSpaces (Text.trim text.lowered))

/-- The category under which a text is filed: that of the entry it spells, or the one for anything
else. -/
def filedUnder (text : String) : Category :=
  (spelled? text).elim .other Source.category

/-- Every entry is spelled by its own name. -/
theorem spelled?_catalog : ∀ s ∈ catalog, spelled? s.name = some s := by
  decide

theorem underscoresAsSpaces_catalog :
    ∀ s ∈ catalog, underscoresAsSpaces s.name.lowered = s.name.lowered := by
  decide

/-- What is found at the first look has no underscore, so the second one finds it too. -/
theorem spelled?_of_inCatalog? {text : String} {s : Source}
    (found : inCatalog? (Text.trim text.lowered) = some s) : spelled? text = some s := by
  have same : s.name.lowered = Text.trim text.lowered := by
    simpa using List.find?_some found
  have plain := underscoresAsSpaces_catalog s (List.mem_of_find?_eq_some found)
  rw [same] at plain
  rw [spelled?, plain, found]

/-- A text that is not empty names the entry it spells, or else a source of its own. -/
theorem resolve?_eq {text : String} (given : text ≠ "") :
    resolve? text = some ((spelled? text).getD ⟨text, .other, none⟩) := by
  rw [resolve?, if_neg (by simpa using given)]
  cases first : inCatalog? (Text.trim text.lowered) with
  | some s => simp only [first, spelled?_of_inCatalog? first, Option.getD_some]
  | none =>
    cases second : spelled? text with
    | some s =>
      rw [spelled?] at second
      simp only [first, second, Option.getD_some]
    | none =>
      rw [spelled?] at second
      simp only [first, second, Option.getD_none]

theorem category_spelled?_getD (text : String) :
    ((spelled? text).getD ⟨text, .other, none⟩).category = filedUnder text := by
  rw [filedUnder]
  cases spelled? text with
  | some s => rfl
  | none => rfl

end Source

namespace Match

open Source

/-- Two texts name the same source, or sources of one category, or sources that do not match. -/
theorem source?_eq {given target : String} (there : given ≠ "") (wanted : target ≠ "") :
    source? (some given) target =
      if ((spelled? given).getD ⟨given, .other, none⟩).name.lowered = target.lowered then
        some ⟨50, "Source: " ++ ((spelled? given).getD ⟨given, .other, none⟩).name⟩
      else if filedUnder given = filedUnder target then
        some ⟨30, "Source category: " ++ (filedUnder given).name⟩
      else none := by
  rw [source?, Option.bind_some, resolve?_eq there, resolve?_eq wanted]
  simp only [beq_iff_eq, category_spelled?_getD, IntentScore.points]

end Match

end ContactSearch
