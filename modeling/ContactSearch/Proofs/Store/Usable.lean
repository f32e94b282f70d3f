import ContactSearch.Proofs.Store.Refinement

/-!
# Stores that do what they are told

A store in memory, and a store in a file whose path is open, always answer and always take a text.
What such a store takes under a key it gives out under that key, and under every other key it gives
out what it gave out before. Whatever is kept in a store rests on these laws alone.
-/

namespace ContactSearch.Store

variable {s : Store}

/-- The store has an implementation, and its path is not blocked. -/
def IsUsable : Store → Prop
  | memory _ => True
  | file s => s.IsOpen
  | unimplemented => False

theorem IsUsable.ne_unimplemented (usable : s.IsUsable) : s ≠ .unimplemented := by
  rintro rfl
  exact usable

/-- A text that is set is there, and nothing else has changed. -/
theorem set_of_isUsable (usable : s.IsUsable) (key value : String) :
    ∃ updated, s.set key value = (.ok (), updated) ∧ updated.IsUsable ∧
      updated.get key = .ok (some value) ∧
      ∀ other, other ≠ key → updated.get other = s.get other := by
  cases s with
  | memory entries =>
    refine ⟨_, rfl, trivial, ?_, ?_⟩
    · rw [get, KeyedList.get?_set_self]
    · intro other apart
      rw [get, get, KeyedList.get?_set_of_ne _ _ apart.symm]
  | file s =>
    obtain ⟨updated, result, is_open, entries, -⟩ := FileStore.set_of_isOpen usable key value
    refine ⟨file updated, ?_, is_open, ?_, ?_⟩
    · simp only [set, result]
      rfl
    · rw [get, FileStore.get, entries, KeyedList.get?_set_self]
      rfl
    · intro other apart
      rw [get, get, FileStore.get, FileStore.get, entries,
        KeyedList.get?_set_of_ne _ _ apart.symm]
  | unimplemented => cases usable

/-- A store with an implementation can be asked for any key, also where its path is blocked. -/
theorem get_of_ne_unimplemented (implemented : s ≠ .unimplemented) (key : String) :
    ∃ stored, s.get key = .ok stored := by
  cases s with
  | memory entries => exact ⟨_, rfl⟩
  | file s => exact ⟨_, rfl⟩
  | unimplemented => exact absurd rfl implemented

/-- What gives out a text takes texts too: there is a file then, so its path is open. -/
theorem isUsable_of_get {key value : String} (found : s.get key = .ok (some value)) :
    s.IsUsable := by
  cases s with
  | memory entries => trivial
  | unimplemented => cases found
  | file s =>
    have text : s.get key = some value := Except.ok.inj found
    obtain ⟨v, entry, -⟩ := Option.bind_eq_some_iff.mp text
    cases there : s.place.content? s.name with
    | some content => exact Place.isOpen_of_content? there
    | none =>
      rw [FileStore.entries, there] at entry
      cases entry

end ContactSearch.Store
