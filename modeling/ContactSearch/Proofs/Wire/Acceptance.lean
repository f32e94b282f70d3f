import ContactSearch.Proofs.Wire.Record

/-!
# What schemas accept

Whether a value is read is decided part by part: an array by its items, a table by its keys and
values, an object by its fields, each of which is looked up under both of its names. So that a value
is read can be said without saying what is read.
-/

namespace ContactSearch.Wire

/-! ## Acceptance -/

mutual

/-- A value is such as the schema describes. -/
def Schema.Accepts : {α : Type} → Schema α → Json → Prop
  | _, .leaf read _, v => ∃ a, read v = .ok a
  | _, .optional value, v => v = .null ∨ value.Accepts v
  | _, .list item, v => ∃ items, v = .array items ∧ ∀ w ∈ items, item.Accepts w
  | _, .table value, v => ∃ entries, v = .object entries ∧
    ∀ p ∈ entries, (∃ n, integerOfText p.1.toList = .ok n) ∧ value.Accepts p.2
  | _, .record fields, v => ∃ given, v = .object given ∧ fields.Accept given

/-- Each field that is given has a value such as its schema describes, and no field is missing that
has to be there. -/
def Fields.Accept : {σ α : Type} → Fields σ α → KeyedList String Json → Prop
  | _, _, .nil _, _ => True
  | _, _, .snoc before name wire value absent _, given => before.Accept given ∧
    ((∃ v, fieldValue? name wire given = some v ∧ value.Accepts v) ∨
      (fieldValue? name wire given = none ∧ absent.isSome = true))

end

/-! ## Reading part by part -/

variable {σ α β : Type}

/-- A traversal succeeds as a whole where it succeeds at every item. -/
theorem exists_forall₂_iff {ι : Type} {R : ι → α → Prop} {items : List ι} :
    (∃ values, List.Forall₂ R items values) ↔ ∀ i ∈ items, ∃ a, R i a := by
  induction items with
  | nil => simp
  | cons i items ih =>
    simp only [List.forall₂_cons_left_iff, List.forall_mem_cons, ← ih]
    constructor
    · rintro ⟨_, a, values, first, later, rfl⟩
      exact ⟨⟨a, first⟩, values, later⟩
    · rintro ⟨⟨a, first⟩, values, later⟩
      exact ⟨a :: values, a, values, first, later, rfl⟩

namespace Schema

theorem exists_read_optional_iff {value : Schema α} {v : Json} :
    (∃ a?, (optional value).read v = .ok a?) ↔ v = .null ∨ ∃ a, value.read v = .ok a := by
  simp only [read_optional_eq_ok_iff]
  constructor
  · rintro ⟨_, ⟨null, -⟩ | ⟨-, a, given, -⟩⟩
    · exact .inl null
    · exact .inr ⟨a, given⟩
  · intro either
    by_cases null : v = .null
    · exact ⟨none, .inl ⟨null, rfl⟩⟩
    · obtain ⟨a, given⟩ := either.resolve_left null
      exact ⟨some a, .inr ⟨null, a, given, rfl⟩⟩

theorem exists_read_list_iff {item : Schema α} {v : Json} :
    (∃ values, (list item).read v = .ok values) ↔
      ∃ items, v = .array items ∧ ∀ w ∈ items, ∃ a, item.read w = .ok a := by
  simp only [read_list_eq_ok_iff, ← exists_forall₂_iff]
  constructor
  · rintro ⟨values, items, same, each⟩
    exact ⟨items, same, values, each⟩
  · rintro ⟨items, same, values, each⟩
    exact ⟨values, items, same, each⟩

theorem exists_read_table_iff {value : Schema α} {v : Json} :
    (∃ t, (table value).read v = .ok t) ↔ ∃ entries, v = .object entries ∧ ∀ p ∈ entries,
      (∃ n, integerOfText p.1.toList = .ok n) ∧ ∃ a, value.read p.2 = .ok a := by
  have pairs : ∀ p : String × Json, (∃ pair : Int × α, integerOfText p.1.toList = .ok pair.1 ∧
      value.read p.2 = .ok pair.2) ↔
        (∃ n, integerOfText p.1.toList = .ok n) ∧ ∃ a, value.read p.2 = .ok a := by
    intro p
    constructor
    · rintro ⟨pair, key, entry⟩
      exact ⟨⟨_, key⟩, _, entry⟩
    · rintro ⟨⟨n, key⟩, a, entry⟩
      exact ⟨(n, a), key, entry⟩
  simp only [read_table_eq_ok_iff, ← pairs, ← exists_forall₂_iff]
  constructor
  · rintro ⟨_, entries, pairs, same, each, -⟩
    exact ⟨entries, same, pairs, each⟩
  · rintro ⟨entries, same, pairs, each⟩
    exact ⟨_, entries, pairs, same, each, rfl⟩

theorem exists_read_record_iff {fields : Fields α α} {v : Json} :
    (∃ a, (record fields).read v = .ok a) ↔
      ∃ given, v = .object given ∧ ∃ a, fields.read given = .ok a := by
  simp only [read_record_eq_ok_iff]
  constructor
  · rintro ⟨a, given, same, read⟩
    exact ⟨given, same, a, read⟩
  · rintro ⟨given, same, a, read⟩
    exact ⟨a, given, same, read⟩

end Schema

theorem Fields.exists_read_snoc_iff {before : Fields σ (β → α)} {name wire : String}
    {value : Schema β} {absent : Option β} {get : σ → β} {given : KeyedList String Json} :
    (∃ a, (Fields.snoc before name wire value absent get).read given = .ok a) ↔
      (∃ make, before.read given = .ok make) ∧
        ((∃ v, fieldValue? name wire given = some v ∧ ∃ b, value.read v = .ok b) ∨
          (fieldValue? name wire given = none ∧ absent.isSome = true)) := by
  simp only [read_snoc_eq_ok_iff, readField_eq_ok_iff, Option.isSome_iff_exists]
  constructor
  · rintro ⟨_, make, b, front, ⟨v, found, read⟩ | ⟨missing, default⟩, -⟩
    · exact ⟨⟨make, front⟩, .inl ⟨v, found, b, read⟩⟩
    · exact ⟨⟨make, front⟩, .inr ⟨missing, b, default⟩⟩
  · rintro ⟨⟨make, front⟩, ⟨v, found, b, read⟩ | ⟨missing, b, default⟩⟩
    · exact ⟨make b, make, b, front, .inl ⟨v, found, read⟩, rfl⟩
    · exact ⟨make b, make, b, front, .inr ⟨missing, default⟩, rfl⟩

/-! ## Reading what is accepted -/

mutual

/-- A value is read exactly where it is accepted. -/
theorem Schema.exists_read_iff : {α : Type} → (s : Schema α) → (v : Json) →
    ((∃ a, s.read v = .ok a) ↔ s.Accepts v)
  | _, .leaf read _, v => by
    simp only [Schema.read, Checked.ofCause_eq_ok, Schema.Accepts]
  | _, .optional value, v => by
    rw [Schema.exists_read_optional_iff, value.exists_read_iff v, Schema.Accepts]
  | _, .list item, v => by
    simp only [Schema.exists_read_list_iff, item.exists_read_iff, Schema.Accepts]
  | _, .table value, v => by
    simp only [Schema.exists_read_table_iff, value.exists_read_iff, Schema.Accepts]
  | _, .record fields, v => by
    simp only [Schema.exists_read_record_iff, fields.exists_read_iff, Schema.Accepts]

/-- Fields are read exactly where each of them is accepted. -/
theorem Fields.exists_read_iff : {σ α : Type} → (fields : Fields σ α) →
    (given : KeyedList String Json) → ((∃ a, fields.read given = .ok a) ↔ fields.Accept given)
  | _, _, .nil make, given => by
    simp only [Fields.read_nil, Fields.Accept, iff_true]
    exact ⟨make, rfl⟩
  | _, _, .snoc before name wire value absent get, given => by
    simp only [Fields.exists_read_snoc_iff, before.exists_read_iff given, value.exists_read_iff,
      Fields.Accept]

end

end ContactSearch.Wire
