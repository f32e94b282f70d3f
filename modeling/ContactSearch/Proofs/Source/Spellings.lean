import ContactSearch.Proofs.Match.SourceNames
import ContactSearch.Proofs.Text.AsciiCase
import ContactSearch.Proofs.Text.Blanks
import ContactSearch.Proofs.Text.Joined
import ContactSearch.Proofs.Traversal

/-!
# Spellings of a source

A text names the entry of the catalog that it spells, whichever of the two looks finds it, and no
text spells two entries. Any other text names a source of its own. The name of the source that a
text names leads to the same source again.
-/

namespace ContactSearch

namespace Source

open Text

/-- A text spells a name: its ASCII letters may stand in either case, its spaces may be written as
underscores, and there may be blanks around it. -/
def Spells (text name : String) : Prop :=
  ∃ front core back, text.toList = front ++ (core ++ back) ∧
    (∀ c ∈ front, isBlank c = true) ∧ (∀ c ∈ back, isBlank c = true) ∧
    List.Forall₂ (fun n c => c.toLower = n.toLower ∨ n = ' ' ∧ c = '_') name.toList core

/-- What a text is compared by: the text in lower case, trimmed, and then with its underscores read
as spaces. -/
def comparedBy (text : String) : List Char :=
  underscoresAsSpaces (trim text.lowered)

/-! ## Names of the catalog -/

theorem ascii_catalog : ∀ s ∈ catalog, ∀ c ∈ s.name.toList, c.toNat < 128 := by
  have ascii : (catalog.all fun s => s.name.toList.all fun c => c.toNat < 128) = true := by
    decide
  simpa using ascii

theorem isTrimmed_catalog : ∀ s ∈ catalog, IsTrimmed isBlank s.name.lowered := by
  have trimmed : ∀ s ∈ catalog, trim s.name.lowered = s.name.lowered := by
    decide
  intro s listed
  rw [← trimmed s listed]
  exact isTrimmed_trimBy isBlank s.name.lowered

/-- No two names of the catalog are equal in lower case. -/
theorem inCatalog?_lowered : ∀ s ∈ catalog, inCatalog? s.name.lowered = some s := by
  decide

theorem inCatalog?_eq_some_iff {key : List Char} {entry : Source} (listed : entry ∈ catalog) :
    inCatalog? key = some entry ↔ key = entry.name.lowered := by
  constructor
  · intro found
    unfold inCatalog? at found
    have same := List.find?_some found
    exact (beq_iff_eq.mp same).symm
  · rintro rfl
    exact inCatalog?_lowered entry listed

/-! ## One comparison for the two looks -/

variable {text : String}

theorem spelled?_eq_some_iff {entry : Source} (listed : entry ∈ catalog) :
    spelled? text = some entry ↔ comparedBy text = entry.name.lowered :=
  inCatalog?_eq_some_iff listed

theorem spelled?_eq_none_iff :
    spelled? text = none ↔ ∀ entry ∈ catalog, comparedBy text ≠ entry.name.lowered := by
  constructor
  · intro none entry listed same
    rw [(spelled?_eq_some_iff listed).mpr same] at none
    cases none
  · intro apart
    cases found : spelled? text with
    | none => rfl
    | some entry =>
      rcases named_cases text with ⟨named, listed⟩ | ⟨none, -⟩
      · exact absurd ((spelled?_eq_some_iff listed).mp named) (apart _ listed)
      · rw [none] at found
        cases found

/-- A text names an entry exactly when it spells it. The source of its own that a text may name is
no entry: its name would spell the entry. -/
theorem resolve?_eq_entry_iff {entry : Source} (listed : entry ∈ catalog) :
    resolve? text = some entry ↔ comparedBy text = entry.name.lowered := by
  rw [← spelled?_eq_some_iff listed]
  by_cases given : text = ""
  · subst given
    have nothing : spelled? "" = none := by decide
    simp [resolve?, nothing]
  · rw [resolve?_eq_named given, Option.some.injEq]
    constructor
    · rintro rfl
      rw [← spelled?_name_named, spelled?_catalog _ listed]
    · intro found
      rw [named, found, Option.getD_some]

/-! ## Spellings -/

theorem ascii_of_toLower_eq {n c : Char} (ascii : n.toNat < 128) (same : c.toLower = n.toLower) :
    c.toNat < 128 := by
  have low : ∀ n < 128, (Char.ofNat n).toLower.toNat < 128 := by decide
  by_contra beyond
  have known := low n.toNat ascii
  rw [Char.ofNat_toNat, ← same, toLower_of_beyond (Nat.le_of_not_lt beyond)] at known
  exact beyond known

/-- Reading underscores as spaces makes up for every space that is written as an underscore. -/
theorem underscoresAsSpaces_of_forall₂ {name core : List Char}
    (each : List.Forall₂ (fun n c => c.toLower = n.toLower ∨ n = ' ' ∧ c = '_') name core) :
    underscoresAsSpaces (asciiLower core) = underscoresAsSpaces (asciiLower name) := by
  induction each with
  | nil => rfl
  | cons first _ ih =>
    have head : ∀ s : List Char, ∀ c, underscoresAsSpaces (c :: s) =
        (if c == '_' then ' ' else c) :: underscoresAsSpaces s := fun _ _ => rfl
    rw [asciiLower_cons, asciiLower_cons, head, head, ih]
    rcases first with same | ⟨rfl, rfl⟩
    · rw [same]
    · rfl

/-- Blanks stay blanks when underscores are read as spaces, so none stood at the ends before. -/
theorem isTrimmed_of_underscoresAsSpaces {s : List Char}
    (trimmed : IsTrimmed isBlank (underscoresAsSpaces s)) : IsTrimmed isBlank s := by
  have kept : ∀ c, isBlank c = true → isBlank (if c == '_' then ' ' else c) = true := by
    intro c blank
    split
    · exact isBlank_space
    · exact blank
  constructor
  · intro c first
    have read := trimmed.front (if c == '_' then ' ' else c) (by
      rw [underscoresAsSpaces, List.head?_map, Option.mem_def.mp first]
      rfl)
    by_contra blank
    rw [kept c (by simpa using blank)] at read
    cases read
  · intro c last
    have read := trimmed.back (if c == '_' then ' ' else c) (by
      rw [underscoresAsSpaces, List.getLast?_map, Option.mem_def.mp last]
      rfl)
    by_contra blank
    rw [kept c (by simpa using blank)] at read
    cases read

/-- A spelling of a name is compared by the name in lower case. -/
theorem comparedBy_of_spells {entry : Source} (listed : entry ∈ catalog)
    (spells : Spells text entry.name) : comparedBy text = entry.name.lowered := by
  obtain ⟨front, core, back, whole, before, after, each⟩ := spells
  have name_ascii := ascii_catalog entry listed
  have core_ascii : ∀ c ∈ core, c.toNat < 128 := by
    intro c member
    obtain ⟨n, there, same | ⟨-, rfl⟩⟩ := exists_of_mem_of_forall₂ each member
    · exact ascii_of_toLower_eq (name_ascii n there) same
    · decide
  have read : underscoresAsSpaces (asciiLower core) = entry.name.lowered := by
    rw [underscoresAsSpaces_of_forall₂ each, ← lower_of_ascii name_ascii]
    exact underscoresAsSpaces_catalog entry listed
  have trimmed : IsTrimmed isBlank (asciiLower core) := by
    apply isTrimmed_of_underscoresAsSpaces
    rw [read]
    exact isTrimmed_catalog entry listed
  rw [comparedBy, String.lowered, whole, lower_blanks_append before, lower_append_blanks after,
    lower_of_ascii core_ascii, trim, trimBy_padded trimmed before after, read]

/-! ## Resolving -/

/-- How a text is resolved. -/
structure ResolvesByName (text : String) : Prop where
  /-- One comparison tells which entry a text names. -/
  entry : ∀ s ∈ catalog, resolve? text = some s ↔ comparedBy text = s.name.lowered
  /-- No two entries compete for a text. -/
  unique : ∀ s ∈ catalog, ∀ t ∈ catalog, comparedBy text = s.name.lowered →
    comparedBy text = t.name.lowered → s = t
  spelling : ∀ s ∈ catalog, Spells text s.name → resolve? text = some s
  /-- A text that is no entry's names a source of its own. -/
  other : text ≠ "" → (∀ s ∈ catalog, comparedBy text ≠ s.name.lowered) →
    resolve? text = some ⟨text, .other, none⟩
  /-- The name of the source leads to the source again. -/
  again : text ≠ "" → ∃ s, resolve? text = some s ∧ resolve? s.name = some s

/-- Resolving the name of the source that a text names gives that source again. -/
theorem resolve?_name_named (given : text ≠ "") :
    resolve? (named text).name = some (named text) := by
  rcases named_cases text with ⟨found, listed⟩ | ⟨-, own⟩
  · exact (resolve?_eq_entry_iff listed).mpr
      ((spelled?_eq_some_iff listed).mp (spelled?_catalog _ listed))
  · rw [own, resolve?_eq_named given]

end Source

end ContactSearch
