import ContactSearch.Proofs.KeyedList
import ContactSearch.Store.Folder

/-!
# Replacing a file

Where neither a file has the name of the folder nor a folder has the name of the file, replacing
always succeeds, the file has the new content then, and it can be replaced again. Elsewhere it fails
and the place stays as it is. In both cases the temporary file is gone.
-/

namespace ContactSearch

open Text

namespace Place

/-- A file of this name can be put here. -/
def IsOpen (name : String) : Place → Prop
  | vacant => True
  | taken => False
  | folder entries => entries.get? name ≠ some .folder

/-- Where there is a file of a name, it can be put again. -/
theorem isOpen_of_content? {name : String} {place : Place} {content : Octets}
    (there : place.content? name = some content) : place.IsOpen name := by
  cases place with
  | vacant => trivial
  | taken => cases there
  | folder entries =>
    intro folder
    rw [content?, folder] at there
    cases there

theorem entered_of_isOpen {name : String} {place : Place} (is_open : place.IsOpen name) :
    ∃ entries, place.entered = .ok entries ∧ entries.get? name ≠ some .folder := by
  cases place with
  | vacant => exact ⟨[], rfl, by simp [KeyedList.get?_nil]⟩
  | taken => cases is_open
  | folder entries => exact ⟨entries, rfl, is_open⟩

/-! ## The temporary file -/

theorem freshName_not_mem (names : List String) : freshName names ∉ names := by
  intro member
  have within : (freshName names).toList.Sublist (names.flatMap String.toList) := by
    rw [List.flatMap_def]
    exact List.sublist_flatten_of_mem (List.mem_map_of_mem member)
  have shorter := within.length_le
  rw [freshName, String.toList_append, String.toList_join, List.length_append] at shorter
  have ending : ".tmp".toList.length = 4 := by decide
  omega

/-- Removing a file that was put beside the others leaves these. -/
theorem without_set_of_not_mem {name : String} {entries : KeyedList String Entry}
    (new : name ∉ entries.keys) (e : Entry) : without name (entries.set name e) = entries := by
  have others : ∀ p ∈ entries, (p.1 != name) = true := by
    intro p listed
    rw [bne_iff_ne]
    rintro rfl
    exact new (List.mem_map_of_mem listed)
  rw [KeyedList.set_of_not_mem e new, without, List.filter_append, List.filter_eq_self.mpr others,
    List.filter_cons_of_neg (by simp), List.filter_nil, List.append_nil]

theorem move_of_not_folder {source target : String} {entries : KeyedList String Entry}
    (content : Octets) (not_folder : entries.get? target ≠ some .folder) :
    move source target content entries =
      .ok ((without source entries).set target (.file content)) := by
  unfold move
  split
  · next found => exact absurd found not_folder
  · rfl

/-- The temporary file has no part in what replacing comes to: it is no folder, and it is gone
afterwards, also where it has the very name of the file. -/
theorem replace_of_entered {name : String} {place : Place} {entries : KeyedList String Entry}
    (entered : place.entered = .ok entries) (content : Octets) :
    place.replace name content =
      if entries.get? name = some .folder then (.error .nameIsFolder, folder entries)
      else (.ok (), folder (entries.set name (.file content))) := by
  have new := freshName_not_mem entries.keys
  have gone := without_set_of_not_mem new (.file content)
  have beside : (entries.set (freshName entries.keys) (.file content)).get? name = some .folder ↔
      entries.get? name = some .folder := by
    by_cases same : freshName entries.keys = name
    · have absent : entries.get? name ≠ some .folder := by
        intro there
        exact new (same ▸ List.mem_map_of_mem (KeyedList.mem_of_get? there))
      rw [same, KeyedList.get?_set_self]
      simp [absent]
    · rw [KeyedList.get?_set_of_ne _ _ same]
  rw [replace, entered]
  by_cases blocked : entries.get? name = some .folder
  · simp only [move, beside.mpr blocked, gone, if_pos blocked]
  · have moved : move (freshName entries.keys) name content
        (entries.set (freshName entries.keys) (.file content)) =
          .ok (entries.set name (.file content)) := by
      rw [move_of_not_folder content (mt beside.mp blocked), gone]
    simp only [moved, if_neg blocked]

/-! ## Success and failure -/

/-- Replacing succeeds in an open place, and leaves it open with the new content. -/
theorem replace_of_isOpen {name : String} {place : Place} (is_open : place.IsOpen name)
    (content : Octets) :
    ∃ place', place.replace name content = (.ok (), place') ∧
      place'.content? name = some content ∧ place'.IsOpen name := by
  obtain ⟨entries, entered, not_folder⟩ := entered_of_isOpen is_open
  refine ⟨folder (entries.set name (.file content)), ?_, ?_, ?_⟩
  · rw [replace_of_entered entered, if_neg not_folder]
  · rw [content?, KeyedList.get?_set_self]
  · rw [IsOpen, KeyedList.get?_set_self]
    simp

/-- Replacing fails where a place is not open, and leaves it as it is. -/
theorem replace_of_not_isOpen {name : String} {place : Place} (blocked : ¬ place.IsOpen name)
    (content : Octets) : ∃ e, place.replace name content = (.error e, place) := by
  cases place with
  | vacant => exact absurd trivial blocked
  | taken => exact ⟨.placeTaken, rfl⟩
  | folder entries =>
    refine ⟨.nameIsFolder, ?_⟩
    rw [replace_of_entered rfl, if_pos (not_not.mp blocked)]

end Place

end ContactSearch
