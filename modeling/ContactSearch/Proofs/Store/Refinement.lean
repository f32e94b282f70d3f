import ContactSearch.Proofs.Json.RoundTrip
import ContactSearch.Proofs.Store.Replacement
import ContactSearch.Proofs.Store.Run
import ContactSearch.Proofs.Text.Utf8

/-!
# A store in a file is a map

Whatever octets its file holds, a store in a file answers as the object does that they decode to,
and every setting of a text leaves a file that decodes to the object with that text set. A store
whose file is not there yet cannot be told from an empty one in memory.
-/

namespace ContactSearch

open Text

/-! ## Objects and files -/

/-- The octets are a text that holds this object. -/
def DecodesTo (content : Octets) (entries : KeyedList String Json) : Prop :=
  ∃ text, Encoding.strictUtf8? content = some text ∧ Json.read text = .ok (.object entries)

/-- The object of a file: what its octets decode to, and nothing if there is no file or its octets
hold no object. -/
structure IsObjectOf (content? : Option Octets) (entries : KeyedList String Json) : Prop where
  decoded : ∀ content entries', content? = some content → DecodesTo content entries' →
    entries = entries'
  empty : (∀ content entries', content? = some content → ¬ DecodesTo content entries') →
    entries = []

/-- The entries after a text was set: an entry that was there is replaced in its place, a new one
comes last, and all others stay. -/
structure IsUpdate (key value : String) (before after : KeyedList String Json) : Prop where
  present : key ∈ before.keys →
    after = before.map fun p => if p.1 == key then (key, .text value) else p
  absent : key ∉ before.keys → after = before ++ [(key, .text value)]

/-- Steps are answered as a map from keys to values does that starts as one object and ends as
another. Only values that are texts are given out. -/
inductive AnswersAsMap :
    KeyedList String Json → List (Store.Step × Store.Answer) → KeyedList String Json → Prop
  | done {entries : KeyedList String Json} : AnswersAsMap entries [] entries
  | get {entries after : KeyedList String Json} {trace : List (Store.Step × Store.Answer)}
      (key : String) :
      AnswersAsMap entries trace after →
      AnswersAsMap entries
        ((.get key, .ok ((entries.get? key).bind Json.text?)) :: trace) after
  | set {entries updated after : KeyedList String Json} {trace : List (Store.Step × Store.Answer)}
      {key value : String} :
      IsUpdate key value entries updated → AnswersAsMap updated trace after →
      AnswersAsMap entries ((.set key value, .ok none) :: trace) after

/-! ## Reading the object -/

namespace FileStore

/-- The octets of the file, if there is one. -/
def file? (s : FileStore) : Option Octets :=
  s.place.content? s.name

/-- The path of the store is not blocked. -/
def IsOpen (s : FileStore) : Prop :=
  s.place.IsOpen s.name

theorem entriesOf_of_decodesTo {content : Octets} {entries : KeyedList String Json}
    (decodes : DecodesTo content entries) : entriesOf content = entries := by
  obtain ⟨text, decoded, read⟩ := decodes
  simp only [entriesOf, decoded, read]
  rfl

theorem entriesOf_of_not_decodesTo {content : Octets}
    (no_object : ∀ entries, ¬ DecodesTo content entries) : entriesOf content = [] := by
  cases decoded : Encoding.strictUtf8? content with
  | none => simp only [entriesOf, decoded]
  | some text =>
    simp only [entriesOf, decoded]
    cases read : Json.read text with
    | error e => rfl
    | ok v =>
      cases v with
      | object entries => exact absurd ⟨text, decoded, read⟩ (no_object entries)
      | _ => rfl

theorem isObjectOf_entries (s : FileStore) : IsObjectOf s.file? s.entries := by
  constructor
  · intro content entries' found decodes
    rw [entries, ← file?, found]
    exact entriesOf_of_decodesTo decodes
  · intro no_object
    cases found : s.file? with
    | none =>
      rw [entries, ← file?, found]
      rfl
    | some content =>
      rw [entries, ← file?, found]
      exact entriesOf_of_not_decodesTo fun entries' => no_object content entries' found

theorem isReadable_entriesOf (content : Octets) : (Json.object (entriesOf content)).IsReadable := by
  by_cases decodes : ∃ entries, DecodesTo content entries
  · obtain ⟨entries, decodes⟩ := decodes
    rw [entriesOf_of_decodesTo decodes]
    obtain ⟨text, -, read⟩ := decodes
    exact Json.isReadable_of_read read
  · rw [entriesOf_of_not_decodesTo (not_exists.mp decodes), Json.isReadable_object_iff]
    exact ⟨List.nodup_nil, by simp⟩

/-- The object of a file can always be written back. -/
theorem isReadable_entries (s : FileStore) : (Json.object s.entries).IsReadable := by
  cases found : s.file? with
  | none =>
    rw [entries, ← file?, found, Json.isReadable_object_iff]
    exact ⟨List.nodup_nil, by simp⟩
  | some content =>
    rw [entries, ← file?, found]
    exact isReadable_entriesOf content

theorem decodesTo_contentOf {entries : KeyedList String Json}
    (readable : (Json.object entries).IsReadable) : DecodesTo (contentOf entries) entries :=
  ⟨_, Encoding.strictUtf8?_encode _, Json.read_write readable⟩

/-! ## One step -/

theorem isUpdate_set {entries : KeyedList String Json} (key value : String)
    (nodup : entries.keys.Nodup) : IsUpdate key value entries (entries.set key (.text value)) :=
  ⟨KeyedList.set_of_mem _ nodup, KeyedList.set_of_not_mem _⟩

/-- Setting a text succeeds on an open path, and the file decodes to the updated object then. -/
theorem set_of_isOpen {s : FileStore} (is_open : s.IsOpen) (key value : String) :
    ∃ s' : FileStore, s.set key value = (.ok (), s') ∧ s'.IsOpen ∧
      s'.entries = s.entries.set key (.text value) ∧
      ∃ content, s'.file? = some content ∧ DecodesTo content s'.entries := by
  obtain ⟨place, replaced, content, is_open'⟩ :=
    Place.replace_of_isOpen is_open (contentOf (s.entries.set key (.text value)))
  have decodes := decodesTo_contentOf
    (Json.isReadable_set (v := .text value) key s.isReadable_entries trivial)
  have updated : ({ s with place } : FileStore).entries = s.entries.set key (.text value) := by
    rw [entries, content]
    exact entriesOf_of_decodesTo decodes
  refine ⟨{ s with place }, ?_, is_open', updated, _, content, ?_⟩
  · rw [set, replaced]
  · rwa [updated]

/-! ## Runs -/

/-- What a run of steps on a store in a file comes to. -/
structure RunsAsMap (s : FileStore) (steps : List Store.Step) (s' : FileStore) : Prop where
  run : (Store.run steps (.file s)).2 = .file s'
  answers : AnswersAsMap s.entries (Store.run steps (.file s)).1 s'.entries
  /-- After a text was set the file decodes to the object. -/
  written : (∃ step ∈ steps, step.isSet = true) →
    ∃ content, s'.file? = some content ∧ DecodesTo content s'.entries
  /-- Steps that ask for texts change nothing. -/
  unchanged : (∀ step ∈ steps, step.isSet = false) → s' = s

theorem runsAsMap_nil (s : FileStore) : RunsAsMap s [] s where
  run := rfl
  answers := .done
  written := by simp
  unchanged := fun _ => rfl

theorem runsAsMap_get {s s' : FileStore} {steps : List Store.Step} (key : String)
    (later : RunsAsMap s steps s') : RunsAsMap s (.get key :: steps) s' where
  run := later.run
  answers := .get key later.answers
  written := by
    rintro ⟨step, member, sets⟩
    rcases List.mem_cons.mp member with rfl | listed
    · cases sets
    · exact later.written ⟨step, listed, sets⟩
  unchanged := by
    intro gets
    exact later.unchanged fun step listed => gets step (List.mem_cons_of_mem _ listed)

theorem runsAsMap_set {s updated s' : FileStore} {steps : List Store.Step} {key value : String}
    {content : Octets} (result : s.set key value = (.ok (), updated))
    (entries : updated.entries = s.entries.set key (.text value))
    (file : updated.file? = some content) (decodes : DecodesTo content updated.entries)
    (later : RunsAsMap updated steps s') : RunsAsMap s (.set key value :: steps) s' := by
  have performed := Store.perform_file_set result
  have nodup := (Json.isReadable_object_iff.mp s.isReadable_entries).1
  refine ⟨?_, ?_, ?_, ?_⟩
  · rw [Store.run_cons, performed]
    exact later.run
  · rw [Store.run_cons, performed]
    exact .set (entries ▸ isUpdate_set key value nodup) later.answers
  · intro _
    -- a run without another setting leaves the file as this one wrote it
    by_cases again : ∃ step ∈ steps, step.isSet = true
    · exact later.written again
    · have gets : ∀ step ∈ steps, step.isSet = false := by
        intro step listed
        rw [← Bool.not_eq_true]
        exact fun sets => again ⟨step, listed, sets⟩
      rw [later.unchanged gets]
      exact ⟨content, file, decodes⟩
  · intro gets
    cases gets _ List.mem_cons_self

theorem exists_runsAsMap (steps : List Store.Step) {s : FileStore} (is_open : s.IsOpen) :
    ∃ s', RunsAsMap s steps s' := by
  induction steps generalizing s with
  | nil => exact ⟨s, runsAsMap_nil s⟩
  | cons step steps ih =>
    cases step with
    | get key =>
      obtain ⟨s', later⟩ := ih is_open
      exact ⟨s', runsAsMap_get key later⟩
    | set key value =>
      obtain ⟨updated, result, is_open', entries, content, file, decodes⟩ :=
        set_of_isOpen is_open key value
      obtain ⟨s', later⟩ := ih is_open'
      exact ⟨s', runsAsMap_set result entries file decodes later⟩

/-! ## Beside a store in memory -/

/-- The entries of a store in memory as those of an object. -/
def textEntries (entries : KeyedList String String) : KeyedList String Json :=
  entries.map fun p => (p.1, .text p.2)

/-- A store in a file answers as a store in memory does that holds the same texts. -/
theorem answers_eq_memory (steps : List Store.Step) {s : FileStore} (is_open : s.IsOpen)
    {entries : KeyedList String String} (same : s.entries = textEntries entries) :
    (Store.run steps (.file s)).1 = (Store.run steps (.memory entries)).1 := by
  induction steps generalizing s entries with
  | nil => rfl
  | cons step steps ih =>
    cases step with
    | get key =>
      have found : s.get key = entries.get? key := by
        rw [get, same, textEntries, KeyedList.get?_map]
        cases entries.get? key <;> rfl
      rw [Store.run_cons, Store.run_cons, Store.perform_get, Store.perform_get, ih is_open same]
      simp only [Store.get, found]
    | set key value =>
      obtain ⟨updated, result, is_open', set_entries, -⟩ := set_of_isOpen is_open key value
      have performed := Store.perform_file_set result
      have same' : updated.entries = textEntries (entries.set key value) := by
        rw [set_entries, same, textEntries, textEntries, KeyedList.set_map]
      rw [Store.run_cons, Store.run_cons, performed, Store.perform_memory_set, ih is_open' same']

/-- A store in a file refines a map, whatever its file holds, and one whose file is not there yet
answers as an empty store in memory. -/
theorem refines_map {s : FileStore} (is_open : s.IsOpen) :
    IsObjectOf s.file? s.entries ∧
      (∀ steps, ∃ s', RunsAsMap s steps s' ∧ IsObjectOf s'.file? s'.entries) ∧
      (s.file? = none → ∀ steps,
        (Store.run steps (.file s)).1 = (Store.run steps (.memory [])).1) := by
  refine ⟨isObjectOf_entries s, ?_, ?_⟩
  · intro steps
    obtain ⟨s', runs⟩ := exists_runsAsMap steps is_open
    exact ⟨s', runs, isObjectOf_entries s'⟩
  · intro vacant steps
    have empty : s.entries = textEntries [] := by
      rw [entries, ← file?, vacant]
      rfl
    exact answers_eq_memory steps is_open empty

/-- A store whose file holds a number, a text and null. -/
def mixedStore : FileStore where
  name := "kv.json"
  place := .folder [("kv.json", .file (contentOf
    [("n", .real (.finite false 1 0)), ("t", .text "x"), ("z", .null)]))]

theorem mixedStore_refines_map :
    mixedStore.IsOpen ∧ IsObjectOf mixedStore.file? mixedStore.entries ∧
      ∀ steps, ∃ s', RunsAsMap mixedStore steps s' ∧ IsObjectOf s'.file? s'.entries := by
  have is_open : mixedStore.IsOpen := by
    intro is_folder
    cases is_folder
  exact ⟨is_open, (refines_map is_open).1, (refines_map is_open).2.1⟩

end FileStore

end ContactSearch
