import ContactSearch.Proofs.Registry.Stored
import ContactSearch.Proofs.Store.Usable

/-!
# What a registry reads

A registry reads what its store holds as a whole or not at all. An array of sources gives these
sources in their order, and whatever else may be stored, an array with a single item that is no
source included, gives none. So a registry never fails to list its sources, unless its store has no
implementation.
-/

namespace ContactSearch

open Wire

namespace Source

/-- The items of an array are these sources, one for one. -/
def AreReadFrom (items : List Json) (sources : List Source) : Prop :=
  List.Forall₂ (fun v s => Source.schema.read v = .ok s) items sources

/-- Sources are read from an array where each of its items is a source by itself. -/
theorem exists_areReadFrom_iff {items : List Json} :
    (∃ sources, AreReadFrom items sources) ↔ ∀ v ∈ items, ∃ s, Source.schema.read v = .ok s := by
  induction items with
  | nil => simp [AreReadFrom]
  | cons v items ih =>
    rw [List.forall_mem_cons, ← ih]
    simp only [AreReadFrom, List.forall₂_cons_left_iff]
    constructor
    · rintro ⟨_, s, sources, first, others, rfl⟩
      exact ⟨⟨s, first⟩, sources, others⟩
    · rintro ⟨⟨s, first⟩, sources, others⟩
      exact ⟨s :: sources, s, sources, first, others, rfl⟩

/-- What is read from an item of an array is among what is read from the array. -/
theorem AreReadFrom.mem_of_read {items : List Json} {sources : List Source} {v : Json} {s : Source}
    (all : AreReadFrom items sources) (listed : v ∈ items) (read : Source.schema.read v = .ok s) :
    s ∈ sources := by
  unfold AreReadFrom at all
  induction all with
  | nil => cases listed
  | cons first _ ih =>
    rcases List.mem_cons.mp listed with rfl | later
    · have same := Except.ok.inj (first.symm.trans read)
      exact List.mem_cons.mpr (.inl same.symm)
    · exact List.mem_cons_of_mem _ (ih later)

/-- What is read as a source has a name. -/
theorem isNamed_of_read {v : Json} {s : Source} (read : Source.schema.read v = .ok s) :
    s.IsNamed := by
  obtain ⟨given, rfl, fields⟩ := Schema.read_record_eq_ok_iff.mp read
  obtain ⟨_, _, category, rfl, -⟩ := Fields.read_maybe_eq_ok_iff.mp fields
  obtain ⟨_, _, _, name, -, -, rfl⟩ := Fields.read_required_eq_ok_iff.mp category
  obtain ⟨_, _, _, none, -, text, rfl⟩ := Fields.read_required_eq_ok_iff.mp name
  rw [Fields.read_nil] at none
  cases none
  exact (Schema.read_nonEmptyText_eq_ok_iff.mp text).2

theorem isNamed_of_areReadFrom {items : List Json} {sources : List Source}
    (all : AreReadFrom items sources) : ∀ s ∈ sources, s.IsNamed := by
  unfold AreReadFrom at all
  induction all with
  | nil =>
    intro s listed
    cases listed
  | cons first _ ih => exact List.forall_mem_cons.mpr ⟨isNamed_of_read first, ih⟩

end Source

namespace Registry

/-- The text under the key of a registry is a JSON array of these items. -/
def HoldsArray (r : Registry) (items : List Json) : Prop :=
  ∃ raw, r.store.get r.key = .ok (some raw) ∧ Json.read raw.toList = .ok (.array items)

/-- What a registry reads: an array of sources as a whole, and nothing of anything else. -/
inductive Reads (r : Registry) : List Source → Prop
  | whole {items : List Json} {sources : List Source} (array : r.HoldsArray items)
    (all : Source.AreReadFrom items sources) : Reads r sources
  | nothing (broken : ∀ items, r.HoldsArray items →
      ∃ v ∈ items, ∀ s, Source.schema.read v ≠ .ok s) : Reads r []

variable {r : Registry} {items : List Json} {sources : List Source}

/-- What a registry reads has names. -/
theorem Reads.isNamed (reads : r.Reads sources) : ∀ s ∈ sources, s.IsNamed := by
  cases reads with
  | whole _ all => exact Source.isNamed_of_areReadFrom all
  | nothing _ =>
    intro s listed
    cases listed

theorem HoldsArray.isUsable (array : r.HoldsArray items) : r.store.IsUsable := by
  obtain ⟨raw, stored, -⟩ := array
  exact Store.isUsable_of_get stored

/-- A text under a key is one array at most. -/
theorem HoldsArray.unique {others : List Json} (array : r.HoldsArray items)
    (other : r.HoldsArray others) : others = items := by
  obtain ⟨raw, stored, decoded⟩ := array
  obtain ⟨raw', stored', decoded'⟩ := other
  rw [stored] at stored'
  cases stored'
  rw [decoded] at decoded'
  cases decoded'
  rfl

/-! ## The stored text -/

theorem sourcesIn_of_areReadFrom {raw : String} (array : Json.read raw.toList = .ok (.array items))
    (all : Source.AreReadFrom items sources) : sourcesIn raw = sources := by
  have read : (Schema.list Source.schema).read (.array items) = .ok sources :=
    Schema.read_list_eq_ok_iff.mpr ⟨items, rfl, all⟩
  rw [sourcesIn, array]
  simp only [read]

/-- A text that is no array of sources holds none. -/
theorem sourcesIn_eq_nil {raw : String} (broken : ∀ items sources,
      Json.read raw.toList = .ok (.array items) → ¬ Source.AreReadFrom items sources) :
    sourcesIn raw = [] := by
  cases decoded : Json.read raw.toList with
  | error e => rw [sourcesIn, decoded]
  | ok v =>
    cases read : (Schema.list Source.schema).read v with
    | error issues =>
      rw [sourcesIn, decoded]
      simp only [read]
    | ok sources =>
      obtain ⟨items, rfl, all⟩ := Schema.read_list_eq_ok_iff.mp read
      exact absurd all (broken items sources decoded)

/-! ## Reading -/

/-- An array of sources is read as a whole. -/
theorem custom_of_areReadFrom (array : r.HoldsArray items)
    (all : Source.AreReadFrom items sources) : r.custom = .ok sources := by
  obtain ⟨raw, stored, decoded⟩ := array
  rw [custom, stored]
  show Except.ok (sourcesIn raw) = _
  rw [sourcesIn_of_areReadFrom decoded all]

/-- What is no array, or an array with an item that is no source, reads as nothing. -/
theorem custom_of_broken (implemented : r.store ≠ .unimplemented) (broken : ∀ items,
      r.HoldsArray items → ∃ v ∈ items, ∀ s, Source.schema.read v ≠ .ok s) : r.custom = .ok [] := by
  obtain ⟨stored, found⟩ := Store.get_of_ne_unimplemented implemented r.key
  rw [custom, found]
  cases stored with
  | none => rfl
  | some raw =>
    show Except.ok (sourcesIn raw) = _
    rw [sourcesIn_eq_nil]
    intro items sources decoded all
    obtain ⟨v, listed, none⟩ := broken items ⟨raw, found, decoded⟩
    obtain ⟨s, read⟩ := Source.exists_areReadFrom_iff.mp ⟨sources, all⟩ v listed
    exact none s read

/-- A registry over a store with an implementation always reads something. -/
theorem exists_custom (implemented : r.store ≠ .unimplemented) :
    ∃ sources, r.custom = .ok sources ∧ r.Reads sources := by
  by_cases whole : ∃ items sources, r.HoldsArray items ∧ Source.AreReadFrom items sources
  · obtain ⟨items, sources, array, all⟩ := whole
    exact ⟨sources, custom_of_areReadFrom array all, .whole array all⟩
  · have broken : ∀ items, r.HoldsArray items →
        ∃ v ∈ items, ∀ s, Source.schema.read v ≠ .ok s := by
      intro items array
      by_contra sound
      push Not at sound
      obtain ⟨sources, all⟩ := Source.exists_areReadFrom_iff.mpr sound
      exact whole ⟨items, sources, array, all⟩
    exact ⟨[], custom_of_broken implemented broken, .nothing broken⟩

/-! ## Room -/

variable {room : Option Nat} {custom : List Source}

theorem customWithin_of_overflow {c : Json.Compound} (overflows : r.overflow? room = some c) :
    r.customWithin room = .error (.tooDeep c) := by
  rw [customWithin, overflows]
  rfl

/-- What a registry gives of the custom sources that are read: all of them, or none where the name
of one is torn. -/
def Gives (r : Registry) (custom given : List Source) : Prop :=
  given = custom ∨ r.hasTornName custom = true ∧ given = []

theorem gives_iff_of_legible {given : List Source} (legible : r.hasTornName custom = false) :
    r.Gives custom given ↔ given = custom := by
  simp [Gives, legible]

/-- Where nothing overflows the room, what is read without bounds is read, unless a name is torn. -/
theorem customWithin_of_within (within : r.overflow? room = none) (read : r.custom = .ok custom) :
    r.customWithin room = .ok (if r.hasTornName custom then [] else custom) := by
  rw [customWithin, within, read]
  rfl

theorem exists_customWithin (within : r.overflow? room = none) (read : r.custom = .ok custom) :
    ∃ given, r.Gives custom given ∧ r.customWithin room = .ok given := by
  refine ⟨_, ?_, customWithin_of_within within read⟩
  cases torn : r.hasTornName custom with
  | true => exact .inr ⟨torn, rfl⟩
  | false => exact .inl rfl

theorem customWithin_of_legible (within : r.overflow? room = none) (read : r.custom = .ok custom)
    (legible : r.hasTornName custom = false) : r.customWithin room = .ok custom := by
  rw [customWithin_of_within within read, legible, if_neg Bool.false_ne_true]

theorem sourcesWithin_of_customWithin (read : r.customWithin room = .ok custom) :
    r.sourcesWithin room = .ok (Source.catalog ++ custom) := by
  rw [sourcesWithin, read]
  rfl

theorem sourcesWithin_of_overflow {c : Json.Compound} (overflows : r.overflow? room = some c) :
    r.sourcesWithin room = .error (.tooDeep c) := by
  rw [sourcesWithin, customWithin_of_overflow overflows]
  rfl

/-- Where there are no names, none is torn. -/
theorem hasTornName_nil : r.hasTornName [] = false := by
  rw [hasTornName, List.any_nil, Bool.and_false]

/-- In memory nothing but the text under the key is read. -/
theorem overflow?_of_memory {entries : KeyedList String String} {raw : String}
    (memory : r.store = .memory entries) (stored : r.store.get r.key = .ok (some raw)) :
    r.overflow? room = Json.overflow? room raw.toList := by
  have file : r.store.overflow? room = none := by
    rw [memory]
    rfl
  rw [overflow?, stored?, stored, file, Option.none_or, Option.bind_some]

/-- A registry over a file with this content. -/
def overFile (content : Text.Octets) : Registry :=
  .make (.file ⟨"kv.json", .folder [("kv.json", .file content)]⟩) none

/-- What overflows the room in the text of the file does so in the registry. -/
theorem overflow?_overFile {s : List Char} {c : Json.Compound}
    (overflows : Json.overflow? room s = some c) :
    (overFile (Text.Encoding.utf8.encode s)).overflow? room = some c := by
  have file : (overFile (Text.Encoding.utf8.encode s)).store.overflow? room = some c := by
    show ((some (Text.Encoding.utf8.encode s)).bind Text.Encoding.strictUtf8?).bind
      (Json.overflow? room) = _
    rw [Option.bind_some, Text.Encoding.strictUtf8?_encode, Option.bind_some, overflows]
  rw [overflow?, file, Option.some_or]

/-- A registry over a file of nested arrays. -/
def nestedRegistry : Registry :=
  overFile (Text.Encoding.utf8.encode (Json.nestedText 1000))

theorem overflow?_nestedRegistry : nestedRegistry.overflow? Json.usualRoom = some .array :=
  overflow?_overFile (Json.overflow?_nestedText Json.not_fits_thousand)

/-! ## A source beside a number -/

/-- A channel that stands in a store. -/
def podcast : Source :=
  ⟨"Podcast", .digital, none⟩

/-- A source, and a number that is none. -/
def mixedItems : List Json :=
  [storedSource podcast, .int 5]

/-- A registry over a store with these items. -/
def mixedRegistry : Registry :=
  .make (.memory [("arrow-crm-custom-sources", String.ofList (Json.write (.array mixedItems)))]) none

theorem isReadable_mixedItems : (Json.array mixedItems).IsReadable := by
  have digit : (Json.int 5).IsReadable := by
    rw [Json.IsReadable]
    decide
  exact ⟨isReadable_storedSource podcast, digit, trivial⟩

theorem stored_mixedRegistry : mixedRegistry.store.get mixedRegistry.key =
    .ok (some (String.ofList (Json.write (.array mixedItems)))) :=
  rfl

theorem holdsArray_mixedRegistry : mixedRegistry.HoldsArray mixedItems := by
  refine ⟨_, stored_mixedRegistry, ?_⟩
  rw [String.toList_ofList, Json.read_write isReadable_mixedItems]

theorem overflow?_mixedRegistry : mixedRegistry.overflow? Json.usualRoom = none := by
  rw [overflow?_of_memory rfl stored_mixedRegistry, String.toList_ofList,
    Json.overflow?_write_eq_none_iff isReadable_mixedItems]
  exact Json.fits_some.mpr (by decide)

theorem broken_mixedItems : ∃ v ∈ mixedItems, ∀ t, Source.schema.read v ≠ .ok t := by
  refine ⟨.int 5, List.mem_cons_of_mem _ List.mem_cons_self, ?_⟩
  intro t read
  cases read

theorem custom_mixedRegistry : mixedRegistry.custom = .ok [] :=
  custom_of_broken holdsArray_mixedRegistry.isUsable.ne_unimplemented
    fun _ other => holdsArray_mixedRegistry.unique other ▸ broken_mixedItems

end Registry

end ContactSearch
