import ContactSearch.Proofs.Source

/-!
# Sources compared by their names

Two texts are compared by the sources that they name. The text of a contact may be any spelling of
its source. The text looked for counts as the very same source only where it is the name of that
source in some case; spelled with underscores, or with blanks around it, it counts as another source
of the category.
-/

namespace ContactSearch

namespace Source

/-- The source that a text names: the entry it spells, or else a source of that very name. -/
def named (text : String) : Source :=
  (spelled? text).getD ⟨text, .other, none⟩

variable {given target : String}

theorem resolve?_eq_named (there : given ≠ "") : resolve? given = some (named given) :=
  resolve?_eq there

theorem category_named (text : String) : (named text).category = filedUnder text :=
  category_spelled?_getD text

/-- A text names an entry of the catalog, or it is itself the name. -/
theorem named_cases (text : String) :
    (spelled? text = some (named text) ∧ named text ∈ catalog) ∨
      (spelled? text = none ∧ (named text).name = text) := by
  unfold named
  cases found : spelled? text with
  | none => exact .inr ⟨rfl, rfl⟩
  | some entry =>
    unfold spelled? inCatalog? at found
    exact .inl ⟨rfl, List.mem_of_find?_eq_some found⟩

/-- What a text spells depends on the text in lower case alone. -/
theorem spelled?_congr (same : given.lowered = target.lowered) : spelled? given = spelled? target := by
  rw [spelled?, same, spelled?]

/-- The name of the source that a text names spells what the text itself spells. -/
theorem spelled?_name_named (text : String) : spelled? (named text).name = spelled? text := by
  rcases named_cases text with ⟨found, listed⟩ | ⟨-, own⟩
  · rw [found]
    exact spelled?_catalog _ listed
  · rw [own]

theorem filedUnder_congr (same : spelled? given = spelled? target) :
    filedUnder given = filedUnder target := by
  rw [filedUnder, same, filedUnder]

/-- The same source has one category, whatever texts name it. -/
theorem category_eq_of_sameName (same : (named given).sameName (named target) = true) :
    (named given).category = (named target).category := by
  have names : (named given).name.lowered = (named target).name.lowered := beq_iff_eq.mp same
  have spells := spelled?_congr names
  rw [spelled?_name_named, spelled?_name_named] at spells
  rw [category_named, category_named, filedUnder_congr spells]

/-- A text is the name of the source that another text names exactly where both name one source and
it is the name of its own. -/
theorem lowered_name_eq_iff : (named given).name.lowered = target.lowered ↔
    (named given).sameName (named target) = true ∧ target.lowered = (named target).name.lowered := by
  constructor
  · intro written
    have spells := spelled?_congr written
    rw [spelled?_name_named] at spells
    have own : target.lowered = (named target).name.lowered := by
      rcases named_cases target with ⟨found, -⟩ | ⟨-, own⟩
      · have one : named given = named target := by
          rw [named, spells, found, Option.getD_some]
        rw [← one, written]
      · rw [own]
    exact ⟨beq_iff_eq.mpr (written.trans own), own⟩
  · intro ⟨same, own⟩
    exact (beq_iff_eq.mp same).trans own.symm

end Source

namespace Match

open Source

/-- How a source text scores against a source looked for, by the sources that the two texts name. -/
structure ComparesSources (given target : String) (a b : Source) : Prop where
  ofContact : resolve? given = some a
  ofTarget : resolve? target = some b
  /-- The same source scores as such only where the target is its name. -/
  same : (∃ m, source? (some given) target = some m ∧ m.score = 50) ↔
    a.sameName b = true ∧ target.lowered = b.name.lowered
  alike : (∃ m, source? (some given) target = some m ∧ m.score = 30) ↔
    a.category = b.category ∧ (a.sameName b = true → target.lowered ≠ b.name.lowered)
  unlike : source? (some given) target = none ↔ a.category ≠ b.category
  category : a.sameName b = true → a.category = b.category
  /-- Only an entry of the catalog has other spellings than its name. -/
  spelling : target.lowered = b.name.lowered ∨ b ∈ catalog
  /-- The case of the target changes nothing. -/
  anyCase : ∀ other : String, other.lowered = target.lowered →
    source? (some given) other = source? (some given) target

section Given

variable {given target : String} (there : given ≠ "") (wanted : target ≠ "")
include there wanted

/-- The three ways in which a comparison can end. -/
theorem source?_cases :
    ((named given).name.lowered = target.lowered ∧
      source? (some given) target = some ⟨50, "Source: " ++ (named given).name⟩) ∨
    ((named given).name.lowered ≠ target.lowered ∧
      (named given).category = (named target).category ∧ source? (some given) target =
        some ⟨30, "Source category: " ++ (named given).category.name⟩) ∨
    ((named given).name.lowered ≠ target.lowered ∧
      (named given).category ≠ (named target).category ∧ source? (some given) target = none) := by
  have compared := source?_eq there wanted
  rw [← category_named, ← category_named] at compared
  by_cases name : (named given).name.lowered = target.lowered
  · exact .inl ⟨name, compared.trans (if_pos name)⟩
  · by_cases alike : (named given).category = (named target).category
    · rw [if_pos alike] at compared
      exact .inr (.inl ⟨name, alike, compared.trans (if_neg name)⟩)
    · rw [if_neg alike] at compared
      exact .inr (.inr ⟨name, alike, compared.trans (if_neg name)⟩)

theorem source?_congr {other : String} (same : other.lowered = target.lowered) :
    source? (some given) other = source? (some given) target := by
  have wanted' : other ≠ "" := by
    intro none
    subst none
    have empty : Text.lower target.toList = [] := same.symm
    exact wanted (String.toList_eq_nil_iff.mp (Text.lower_eq_nil_iff.mp empty))
  rw [source?_eq there wanted, source?_eq there wanted', same, filedUnder_congr (spelled?_congr same)]

end Given

end Match

end ContactSearch
