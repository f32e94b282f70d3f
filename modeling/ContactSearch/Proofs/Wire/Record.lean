import ContactSearch.Proofs.Traversal
import ContactSearch.Wire.Single

/-!
# Reading records

What a record that was read says about the data it was read from, one law for each way in which
schemas are built: every field was found under one of its names and read, or was absent and has
the value for that. An array is read exactly when each of its items is.
-/

namespace ContactSearch.Wire

variable {σ α β : Type}

theorem Checked.ofCause_eq_ok {given : Json} {x : Except Cause α} {a : α} :
    Checked.ofCause given x = .ok a ↔ x = .ok a := by
  cases x <;> simp [Checked.ofCause, Checked.refuse]

theorem fieldValue?_of_wire {wire : String} {given : KeyedList String Json} {v : Json}
    (name : String) (found : given.get? wire = some v) : fieldValue? name wire given = some v := by
  rw [fieldValue?, found, Option.some_or]

theorem readField_eq_ok_iff {read : Json → Checked α} {name wire : String} {absent : Option α}
    {given : KeyedList String Json} {a : α} :
    readField read name wire absent given = .ok a ↔
      (∃ v, fieldValue? name wire given = some v ∧ read v = .ok a) ∨
        (fieldValue? name wire given = none ∧ absent = some a) := by
  unfold readField
  cases fieldValue? name wire given with
  | some v => simp [Checked.under_eq_ok]
  | none => cases absent <;> simp [Checked.refuse]

theorem readItems_eq_ok_iff {read : Json → Checked α} {index : Nat} {items : List Json}
    {values : List α} :
    readItems read index items = .ok values ↔
      List.Forall₂ (fun v a => read v = .ok a) items values := by
  induction items generalizing index values with
  | nil => simp [readItems, eq_comm]
  | cons v items ih =>
    rw [readItems, Checked.combine_eq_ok, List.forall₂_cons_left_iff]
    simp only [Checked.under_eq_ok, ih]
    constructor
    · rintro ⟨a, rest, first, others, rfl⟩
      exact ⟨a, rest, first, others, rfl⟩
    · rintro ⟨a, rest, first, others, rfl⟩
      exact ⟨a, rest, first, others, rfl⟩

theorem readEntries_eq_ok_iff {read : Json → Checked α} {entries : List (String × Json)}
    {pairs : List (Int × α)} :
    readEntries read entries = .ok pairs ↔ List.Forall₂ (fun entry pair =>
      integerOfText entry.1.toList = .ok pair.1 ∧ read entry.2 = .ok pair.2) entries pairs := by
  induction entries generalizing pairs with
  | nil => simp [readEntries, eq_comm]
  | cons entry entries ih =>
    rw [readEntries, Checked.combine_eq_ok, List.forall₂_cons_left_iff]
    simp only [readEntry, Checked.under_eq_ok, Checked.combine_eq_ok, Checked.ofCause_eq_ok, ih]
    constructor
    · rintro ⟨pair, rest, ⟨key, a, number, value, rfl⟩, others, rfl⟩
      exact ⟨(key, a), rest, ⟨number, value⟩, others, rfl⟩
    · rintro ⟨pair, rest, ⟨number, value⟩, others, rfl⟩
      exact ⟨pair, rest, ⟨pair.1, pair.2, number, value, rfl⟩, others, rfl⟩

namespace Schema

/-- A text that is not empty is read as it stands. -/
theorem read_nonEmptyText_eq_ok_iff {v : Json} {s : String} :
    nonEmptyText.read v = .ok s ↔ v = .text s ∧ s ≠ "" := by
  cases v with
  | text t =>
    by_cases empty : t = ""
    · subst empty
      simp only [nonEmptyText, Schema.read, readNonEmptyText, readText, Json.text.injEq]
      constructor
      · intro read
        cases read
      · rintro ⟨rfl, some⟩
        exact absurd rfl some
    · have given : t.isEmpty = false := by simpa using empty
      simp only [nonEmptyText, Schema.read, readNonEmptyText, readText, bind, Except.bind, pure,
        Except.pure, given, Checked.ofCause, Bool.false_eq_true, if_false, Except.ok.injEq,
        Json.text.injEq]
      constructor
      · rintro rfl
        exact ⟨rfl, empty⟩
      · exact And.left
  | _ => simp [nonEmptyText, Schema.read, readNonEmptyText, readText, bind, Except.bind,
      Checked.ofCause, Checked.refuse]

/-- A table is read entry by entry; of several entries for one integer the last one counts. -/
theorem read_table_eq_ok_iff {value : Schema α} {v : Json} {table : KeyedList Int α} :
    (Schema.table value).read v = .ok table ↔ ∃ entries pairs, v = .object entries ∧
      List.Forall₂ (fun entry pair => integerOfText entry.1.toList = .ok pair.1 ∧
        value.read entry.2 = .ok pair.2) entries pairs ∧ KeyedList.ofPairs pairs = table := by
  cases v with
  | object entries => simp [Schema.read, map_eq_ok, readEntries_eq_ok_iff]
  | _ => simp [Schema.read, Checked.refuse]

/-- An array is read item by item. -/
theorem read_list_eq_ok_iff {item : Schema α} {v : Json} {values : List α} :
    (list item).read v = .ok values ↔ ∃ items, v = .array items ∧
      List.Forall₂ (fun v a => item.read v = .ok a) items values := by
  cases v with
  | array items => simp [Schema.read, readItems_eq_ok_iff]
  | _ => simp [Schema.read, Checked.refuse]

theorem read_record_eq_ok_iff {fields : Fields α α} {v : Json} {a : α} :
    (record fields).read v = .ok a ↔ ∃ given, v = .object given ∧ fields.read given = .ok a := by
  cases v with
  | object given => simp [Schema.read]
  | _ => simp [Schema.read, Checked.refuse]

/-- Null stands for nothing, and any other value for something. -/
theorem read_optional_eq_ok_iff {value : Schema α} {v : Json} {a? : Option α} :
    (optional value).read v = .ok a? ↔
      (v = .null ∧ a? = none) ∨ (v ≠ .null ∧ ∃ a, value.read v = .ok a ∧ a? = some a) := by
  have of_some : ∀ x : Checked α, x.map some = .ok a? ↔ ∃ a, x = .ok a ∧ a? = some a := by
    intro x
    cases x <;> simp [Except.map, eq_comm]
  cases v with
  | null => simp [Schema.read, eq_comm]
  | _ => simp [Schema.read, of_some]

end Schema

namespace Fields

theorem read_nil (make : α) (given : KeyedList String Json) :
    (nil make : Fields σ α).read given = .ok make := by
  rw [Fields.read]

variable {before : Fields σ (β → α)} {name wire : String} {value : Schema β}
  {given : KeyedList String Json} {a : α}

theorem read_snoc_eq_ok_iff {absent : Option β} {get : σ → β} :
    (snoc before name wire value absent get).read given = .ok a ↔
      ∃ make b, before.read given = .ok make ∧
        readField value.read name wire absent given = .ok b ∧ make b = a := by
  rw [Fields.read, Checked.combine_eq_ok]
  rfl

/-- A field that has to be there was there. -/
theorem read_required_eq_ok_iff {get : σ → β} :
    (before.required name wire value get).read given = .ok a ↔
      ∃ make v b, before.read given = .ok make ∧ fieldValue? name wire given = some v ∧
        value.read v = .ok b ∧ make b = a := by
  rw [required, read_snoc_eq_ok_iff]
  simp only [readField_eq_ok_iff, reduceCtorEq, and_false, or_false]
  constructor
  · rintro ⟨make, b, front, ⟨v, found, read⟩, rfl⟩
    exact ⟨make, v, b, front, found, read, rfl⟩
  · rintro ⟨make, v, b, front, found, read, rfl⟩
    exact ⟨make, b, front, ⟨v, found, read⟩, rfl⟩

/-- A field that may be missing was missing or null, or was read. -/
theorem read_maybe_eq_ok_iff {before : Fields σ (Option β → α)} {get : σ → Option β} :
    (before.maybe name wire value get).read given = .ok a ↔
      ∃ make b?, before.read given = .ok make ∧ make b? = a ∧
        (((fieldValue? name wire given = none ∨ fieldValue? name wire given = some .null) ∧
            b? = none) ∨
          ∃ v b, fieldValue? name wire given = some v ∧ v ≠ .null ∧ value.read v = .ok b ∧
            b? = some b) := by
  rw [maybe, read_snoc_eq_ok_iff]
  have field : ∀ b?, readField value.optional.read name wire (some none) given = .ok b? ↔
      ((fieldValue? name wire given = none ∨ fieldValue? name wire given = some .null) ∧
          b? = none) ∨
        ∃ v b, fieldValue? name wire given = some v ∧ v ≠ .null ∧ value.read v = .ok b ∧
          b? = some b := by
    intro b?
    rw [readField_eq_ok_iff]
    cases fieldValue? name wire given with
    | none => simp [eq_comm]
    | some v =>
      by_cases null : v = .null
      · simp [Schema.read_optional_eq_ok_iff, null]
      · simp [Schema.read_optional_eq_ok_iff, null]
  constructor
  · rintro ⟨make, b?, front, read, rfl⟩
    exact ⟨make, b?, front, rfl, (field b?).mp read⟩
  · rintro ⟨make, b?, front, rfl, read⟩
    exact ⟨make, b?, front, (field b?).mpr read, rfl⟩

end Fields

end ContactSearch.Wire
