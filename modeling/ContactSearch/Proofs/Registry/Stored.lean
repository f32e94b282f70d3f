import ContactSearch.Proofs.Json.RoundTrip
import ContactSearch.Proofs.Wire.Record
import ContactSearch.Registry

/-!
# Stored sources are read back

Sources that have names are written as a JSON array from which the same sources are read: with
their categories, and with their descriptions, an absent one staying absent and an empty one empty.
-/

namespace ContactSearch

open Wire

/-- The source has a name. -/
def Source.IsNamed (s : Source) : Prop :=
  s.name ≠ ""

/-- The fields under which a source stands in data. -/
structure Source.StandsIn (s : Source) (given : KeyedList String Json) : Prop where
  name : given.get? "name" = some (.text s.name)
  category : given.get? "category" = some (.text s.category.name)
  description : given.get? "description" = s.description.map Json.text

theorem Source.read_of_standsIn {s : Source} {given : KeyedList String Json} (named : s.IsNamed)
    (stands : s.StandsIn given) : Source.schema.read (.object given) = .ok s := by
  have name : Schema.nonEmptyText.read (.text s.name) = .ok s.name :=
    Schema.read_nonEmptyText_eq_ok_iff.mpr ⟨rfl, named⟩
  have category : Schema.category.read (.text s.category.name) = .ok s.category := by
    simp [Schema.category, Schema.read, readCategory, Category.ofName?_name, Checked.ofCause]
  rw [Source.schema, Schema.read_record_eq_ok_iff]
  refine ⟨given, rfl, Fields.read_maybe_eq_ok_iff.mpr
    ⟨Source.mk s.name s.category, s.description, ?_, rfl, ?_⟩⟩
  · exact Fields.read_required_eq_ok_iff.mpr ⟨Source.mk s.name, _, s.category,
      Fields.read_required_eq_ok_iff.mpr ⟨Source.mk, _, s.name, Fields.read_nil _ _,
        fieldValue?_of_wire _ stands.name, name, rfl⟩,
      fieldValue?_of_wire _ stands.category, category, rfl⟩
  · have description := stands.description
    cases described : s.description with
    | none =>
      rw [described] at description
      exact .inl ⟨.inl (by rw [fieldValue?, description]; rfl), rfl⟩
    | some d =>
      rw [described] at description
      exact .inr ⟨.text d, d, fieldValue?_of_wire _ description, by simp, rfl, rfl⟩

namespace Registry

/-- The stored form repeats no field and holds texts only, so the reader gives it back. -/
theorem isReadable_storedSource (s : Source) : (storedSource s).IsReadable := by
  rw [storedSource, Json.isReadable_object_iff]
  cases s.description with
  | none => exact ⟨by simp [KeyedList.keys], by simp [Json.IsReadable]⟩
  | some d => exact ⟨by simp [KeyedList.keys], by simp [Json.IsReadable]⟩

theorem read_storedSource {s : Source} (named : s.IsNamed) :
    Source.schema.read (storedSource s) = .ok s := by
  refine Source.read_of_standsIn named ⟨rfl, rfl, ?_⟩
  cases s.description <;> rfl

theorem readItems_storedSource {sources : List Source} (named : ∀ s ∈ sources, s.IsNamed)
    (index : Nat) :
    readItems Source.schema.read index (sources.map storedSource) = .ok sources := by
  induction sources generalizing index with
  | nil => rfl
  | cons s sources ih =>
    rw [List.map_cons, readItems, read_storedSource (named s List.mem_cons_self),
      ih fun s listed => named s (List.mem_cons_of_mem _ listed)]
    rfl

/-- Named sources are read from the text that is stored for them. -/
theorem sourcesIn_storedText {sources : List Source} (named : ∀ s ∈ sources, s.IsNamed) :
    sourcesIn (storedText sources) = sources := by
  have readable : (Json.array (sources.map storedSource)).IsReadable := by
    rw [Json.IsReadable, Json.areReadable_iff]
    intro v listed
    obtain ⟨s, -, rfl⟩ := List.mem_map.mp listed
    exact isReadable_storedSource s
  have read : Json.read (storedText sources).toList =
      .ok (.array (sources.map storedSource)) := by
    rw [storedText, String.toList_ofList, Json.read_write readable]
  rw [sourcesIn, read]
  simp only [Schema.read, readItems_storedSource named]

/-- A registry that stored named sources reads these. -/
theorem custom_of_storedText {r : Registry} {sources : List Source}
    (named : ∀ s ∈ sources, s.IsNamed)
    (stored : r.store.get r.key = .ok (some (storedText sources))) : r.custom = .ok sources := by
  rw [custom, stored]
  show Except.ok (sourcesIn (storedText sources)) = _
  rw [sourcesIn_storedText named]

end Registry

end ContactSearch
