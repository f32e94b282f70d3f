import ContactSearch.Proofs.Wire.ReadBack
import ContactSearch.Wire.Model

/-!
# Models are read back

Every kind of object is described by a record of faithful fields, so what was read of any of them is
read again from its written form. The objects that stand inside others come first.
-/

namespace ContactSearch

open Wire Wire.Schema

@[simp] theorem Contact.isFaithful_schema : Contact.schema.IsFaithful :=
  isFaithful_record (fun _ => rfl) (by decide) (by simp)

@[simp] theorem Intent.isFaithful_schema : Intent.schema.IsFaithful :=
  isFaithful_record (fun _ => rfl) (by decide) (by simp)

@[simp] theorem ParsedQuery.isFaithful_schema : ParsedQuery.schema.IsFaithful :=
  isFaithful_record (fun _ => rfl) (by decide) (by simp)

@[simp] theorem SearchResult.isFaithful_schema : SearchResult.schema.IsFaithful :=
  isFaithful_record (fun _ => rfl) (by decide) (by simp)

@[simp] theorem Source.isFaithful_schema : Source.schema.IsFaithful :=
  isFaithful_record (fun _ => rfl) (by decide) (by simp)

@[simp] theorem Filters.isFaithful_schema : Filters.schema.IsFaithful :=
  isFaithful_record (fun _ => rfl) (by decide) (by simp)

@[simp] theorem Sectors.isFaithful_schema : Sectors.schema.IsFaithful :=
  isFaithful_record (fun _ => rfl) (by decide) (by simp)

@[simp] theorem Chip.isFaithful_schema : Chip.schema.IsFaithful :=
  isFaithful_record (fun _ => rfl) (by decide) (by simp)

namespace Wire.Model

/-- Whatever is read as an object of some kind, in whichever spelling it stands, has a written form
that is read as the same object. -/
theorem read_write_of_read (m : Model) (v : Json) (a : m.Carrier) (read : m.schema.read v = .ok a) :
    m.schema.read (m.schema.write a) = .ok a := by
  have faithful : m.schema.IsFaithful := by
    cases m
    all_goals exact isFaithful_record (fun _ => rfl) (by decide) (by simp)
  exact faithful v a read

/-- Data for a filter, spelled freely: an integer in text, a key with a zero in front, a field under
its other name, and others missing. -/
def looseContext : Json :=
  .object [("matched_ids", .array [.text " +7"]),
    ("orgSectorMap", .object [("01", .object [("sub_sector", .text "Solar")])])]

theorem read_write_looseContext :
    context.schema.read looseContext = .ok ⟨some [7], some [(1, ⟨none, some "Solar"⟩)], []⟩ ∧
      context.schema.read (context.schema.write ⟨some [7], some [(1, ⟨none, some "Solar"⟩)], []⟩) =
        .ok ⟨some [7], some [(1, ⟨none, some "Solar"⟩)], []⟩ := by
  have read : context.schema.read looseContext =
      .ok ⟨some [7], some [(1, ⟨none, some "Solar"⟩)], []⟩ := rfl
  exact ⟨read, read_write_of_read context looseContext _ read⟩

end Wire.Model

end ContactSearch
