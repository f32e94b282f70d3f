import ContactSearch.Proofs.Registry.Overwriting
import ContactSearch.Proofs.Source

/-!
# Custom sources are filed by their names

A registry remembers a category with each source, but two sources are compared by their names alone,
as texts of contacts are. A custom source whose name spells an entry of the catalog counts as that
entry, and every other one counts as a source of the category `other`, whatever was registered.
-/

namespace ContactSearch

open Source

/-- How the name of a source is compared with that of another one. -/
structure Source.ComparesTo (a b : Source) : Prop where
  /-- The one name is another spelling of the other, which is one of the catalog. -/
  respelled : ∀ entry, spelled? a.name = some entry → entry.name.lowered = b.name.lowered →
    Match.source? (some a.name) b.name = some ⟨50, "Source: " ++ entry.name⟩
  alike : (∀ entry, spelled? a.name = some entry → entry.name.lowered ≠ b.name.lowered) →
    filedUnder a.name = filedUnder b.name → Match.source? (some a.name) b.name =
      some ⟨30, "Source category: " ++ (filedUnder a.name).name⟩
  unlike : (∀ entry, spelled? a.name = some entry → entry.name.lowered ≠ b.name.lowered) →
    filedUnder a.name ≠ filedUnder b.name → Match.source? (some a.name) b.name = none

theorem Source.comparesTo_of_ne {a b : Source} (first : a.IsNamed) (second : b.IsNamed)
    (apart : a.name.lowered ≠ b.name.lowered) : a.ComparesTo b := by
  have compared := Match.source?_eq first second
  -- a name that spells no entry stands for itself, so it is not the other name
  have other : (∀ entry, spelled? a.name = some entry → entry.name.lowered ≠ b.name.lowered) →
      ((spelled? a.name).getD ⟨a.name, .other, none⟩).name.lowered ≠ b.name.lowered := by
    intro apart'
    cases found : spelled? a.name with
    | some entry => exact apart' entry found
    | none => exact apart
  constructor
  · intro entry found same
    rw [found, Option.getD_some, if_pos same] at compared
    exact compared
  · intro apart' alike
    rw [if_neg (other apart'), if_pos alike] at compared
    exact compared
  · intro apart' unlike
    rw [if_neg (other apart'), if_neg unlike] at compared
    exact compared

namespace Registry

variable {r : Registry}

theorem isNamed_catalog : ∀ s ∈ catalog, s.IsNamed := by
  unfold IsNamed
  decide

/-- Sources of different names that a registry lists match by the categories under which their names
are filed. A source of the catalog is filed under its own category. -/
theorem sources_compare (implemented : r.store ≠ .unimplemented) :
    ∃ custom, r.custom = .ok custom ∧ r.sources = .ok (catalog ++ custom) ∧
      (∀ s ∈ catalog, spelled? s.name = some s ∧ filedUnder s.name = s.category) ∧
      ∀ a ∈ catalog ++ custom, ∀ b ∈ catalog ++ custom, a.name.lowered ≠ b.name.lowered →
        a.ComparesTo b := by
  obtain ⟨custom, read, reads⟩ := exists_custom implemented
  have named : ∀ s ∈ catalog ++ custom, s.IsNamed :=
    List.forall_mem_append.mpr ⟨isNamed_catalog, reads.isNamed⟩
  refine ⟨custom, read, sources_of_custom read, ?_, ?_⟩
  · intro s listed
    have own := spelled?_catalog s listed
    exact ⟨own, by rw [filedUnder, own, Option.elim_some]⟩
  · intro a first b second apart
    exact comparesTo_of_ne (named a first) (named b second) apart

/-! ## A digital source beside another one -/

/-- A registry that starts with nothing. -/
def emptyRegistry : Registry :=
  .make (.memory []) none

/-- A digital source of the catalog. -/
def linkedIn : Source :=
  ⟨"LinkedIn", .digital, some "Connected via LinkedIn"⟩

theorem linkedIn_mem_catalog : linkedIn ∈ catalog := by
  decide

theorem lowered_podcast_ne : podcast.name.lowered ≠ linkedIn.name.lowered := by
  decide

theorem add_podcast : ∃ updated, emptyRegistry.add podcast = (.ok true, updated) ∧
    updated.store.IsUsable ∧ updated.custom = .ok [podcast] := by
  have new : podcast.IsNewTo (catalog ++ []) := by
    unfold IsNewTo
    decide
  have named : podcast.IsNamed := by simp [IsNamed, podcast]
  have works : emptyRegistry.store.IsUsable := trivial
  have nothing : emptyRegistry.custom = .ok [] := rfl
  obtain ⟨added, updated, result, usable, fresh, after⟩ :=
    add_of_custom works nothing (List.forall_mem_nil _) named
  obtain rfl := fresh.mpr new
  exact ⟨updated, result, usable, after⟩

theorem podcast_comparesTo_linkedIn : ∃ updated,
    emptyRegistry.add podcast = (.ok true, updated) ∧ updated.store ≠ .unimplemented ∧
      podcast.ComparesTo linkedIn := by
  obtain ⟨updated, result, usable, after⟩ := add_podcast
  obtain ⟨custom, read, -, -, compare⟩ := sources_compare usable.ne_unimplemented
  obtain rfl : [podcast] = custom := Except.ok.inj (after.symm.trans read)
  refine ⟨updated, result, usable.ne_unimplemented, ?_⟩
  exact compare podcast (List.mem_append_right _ List.mem_cons_self) linkedIn
    (List.mem_append_left _ linkedIn_mem_catalog) lowered_podcast_ne

/-- A digital source that was added does not match a digital source of the catalog. -/
theorem podcast_not_like_linkedIn : ∃ updated sources,
    emptyRegistry.add podcast = (.ok true, updated) ∧ updated.sources = .ok sources ∧
      podcast ∈ sources ∧ linkedIn ∈ sources ∧ podcast.name.lowered ≠ linkedIn.name.lowered ∧
      podcast.category = linkedIn.category ∧
      Match.source? (some podcast.name) linkedIn.name = none := by
  obtain ⟨updated, result, -, after⟩ := add_podcast
  refine ⟨updated, catalog ++ [podcast], result, sources_of_custom after, ?_, ?_,
    lowered_podcast_ne, rfl, ?_⟩
  · exact List.mem_append_right _ List.mem_cons_self
  · exact List.mem_append_left _ linkedIn_mem_catalog
  · decide

end Registry

end ContactSearch
