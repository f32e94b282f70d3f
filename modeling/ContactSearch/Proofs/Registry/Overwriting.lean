import ContactSearch.Proofs.Registry.Acceptance
import ContactSearch.Proofs.Registry.Reading

/-!
# What adding a source leaves of a stored array

A source is added by writing anew what the registry reads, with the source behind it. An array of
sources is extended in this way. But an array in which one item is no source reads as nothing, so
the next source that is added takes the place of all the others that stood there.
-/

namespace ContactSearch

namespace Registry

/-- What comes of adding a source to a registry whose store held an array of these items: whether it
was added, and the sources that are read afterwards. -/
structure Leaves (items : List Json) (s : Source) (added : Bool) (after : List Source) : Prop where
  /-- An array of sources is kept, and extended by a source of a new name. -/
  whole : ∀ sources, Source.AreReadFrom items sources →
    (added = true ↔ s.IsNewTo (Source.catalog ++ sources)) ∧
      after = sources ++ if added then [s] else []
  /-- With one item that is no source, nothing of an array counts and nothing of it is left. -/
  mixed : (∃ v ∈ items, ∀ t, Source.schema.read v ≠ .ok t) →
    (added = true ↔ s.IsNewTo Source.catalog) ∧ after = if added then [s] else []

/-- All sources of an array are left exactly when it held nothing else, or no other source than the
one that was added. -/
theorem Leaves.kept_iff {items : List Json} {s : Source} {added : Bool} {after : List Source}
    (leaves : Leaves items s added after) :
    (∀ v ∈ items, ∀ t, Source.schema.read v = .ok t → t ∈ after) ↔
      (∀ v ∈ items, ∃ t, Source.schema.read v = .ok t) ∨
        ∀ v ∈ items, ∀ t, Source.schema.read v = .ok t → added = true ∧ t = s := by
  by_cases sound : ∀ v ∈ items, ∃ t, Source.schema.read v = .ok t
  · obtain ⟨sources, all⟩ := Source.exists_areReadFrom_iff.mpr sound
    refine ⟨fun _ => .inl sound, fun _ => ?_⟩
    intro v listed t read
    rw [(leaves.whole sources all).2]
    exact List.mem_append_left _ (all.mem_of_read listed read)
  · have broken : ∃ v ∈ items, ∀ t, Source.schema.read v ≠ .ok t := by
      push Not at sound
      exact sound
    rw [(leaves.mixed broken).2, or_iff_right sound]
    cases added <;> simp

variable {r : Registry} {items : List Json} {s : Source}

/-- Whatever a registry reads is written again, with a source of a new name behind it. -/
theorem add_of_custom {existing : List Source} (usable : r.store.IsUsable)
    (read : r.custom = .ok existing) (named : ∀ t ∈ existing, t.IsNamed) (given : s.IsNamed) :
    ∃ added updated, r.add s = (.ok added, updated) ∧ updated.store.IsUsable ∧
      (added = true ↔ s.IsNewTo (Source.catalog ++ existing)) ∧
      updated.custom = .ok (existing ++ if added then [s] else []) := by
  by_cases fresh : s.IsNewTo (Source.catalog ++ existing)
  · obtain ⟨store, result, usable', text⟩ := add_of_isNewTo usable read fresh
    have all : ∀ t ∈ existing ++ [s], t.IsNamed :=
      List.forall_mem_append.mpr ⟨named, List.forall_mem_singleton.mpr given⟩
    exact ⟨true, _, result, usable', ⟨fun _ => fresh, fun _ => rfl⟩, custom_of_storedText all text⟩
  · refine ⟨false, r, add_of_not_isNewTo read fresh, usable, ?_, ?_⟩
    · simp [fresh]
    · rw [read, if_neg Bool.false_ne_true, List.append_nil]

/-- What comes of adding a source to an array follows from what was read of the array before. -/
theorem HoldsArray.leaves {existing : List Source} {added : Bool} (array : r.HoldsArray items)
    (read : r.custom = .ok existing)
    (fresh : added = true ↔ s.IsNewTo (Source.catalog ++ existing)) :
    Leaves items s added (existing ++ if added then [s] else []) where
  whole sources all := by
    have kept := Except.ok.inj (read.symm.trans (custom_of_areReadFrom array all))
    rw [← kept]
    exact ⟨fresh, rfl⟩
  mixed broken := by
    have none : r.custom = .ok [] := custom_of_broken array.isUsable.ne_unimplemented
      fun others other => array.unique other ▸ broken
    have lost := Except.ok.inj (read.symm.trans none)
    rw [lost, List.append_nil] at fresh
    rw [lost, List.nil_append]
    exact ⟨fresh, rfl⟩

/-- A channel that is added to others. -/
def alumni : Source :=
  ⟨"Alumni Network", .relationship, none⟩

end Registry

end ContactSearch
