import ContactSearch.Proofs.Calendar.Written
import ContactSearch.Proofs.KeyedList
import ContactSearch.Proofs.Wire.Integer
import ContactSearch.Proofs.Wire.Record

/-!
# What was read is read back

Data is read with some freedom, and written in one way. Whatever a schema reads, in whichever
spelling it stood, is read as the same value from its written form. There is one law for each way in
which schemas are built, so the law for a schema follows the schema.
-/

namespace ContactSearch.Wire

variable {σ α β : Type}

namespace Schema

/-- The written form of a value is read as that value. -/
def ReadsBack (s : Schema α) (a : α) : Prop :=
  s.read (s.write a) = .ok a

/-- Whatever is read is read back. -/
def IsFaithful (s : Schema α) : Prop :=
  ∀ v a, s.read v = .ok a → s.ReadsBack a

/-- No value is written as null, so that where null may stand it is told from nothing. -/
def WritesNoNull (s : Schema α) : Prop :=
  ∀ a, s.write a ≠ .null

/-! ## Single values -/

@[simp] theorem readsBack_text (s : String) : text.ReadsBack s := rfl

@[simp] theorem readsBack_integer (n : Int) : integer.ReadsBack n := rfl

@[simp] theorem readsBack_truth (b : Bool) : truth.ReadsBack b := rfl

@[simp] theorem readsBack_anyObject (given : KeyedList String Json) : anyObject.ReadsBack given := rfl

@[simp] theorem readsBack_warmth (w : Warmth) : warmth.ReadsBack w := by
  cases w <;> rfl

@[simp] theorem readsBack_category (c : Category) : category.ReadsBack c := by
  cases c <;> rfl

@[simp] theorem readsBack_intentKind (k : IntentKind) : intentKind.ReadsBack k := by
  cases k <;> rfl

@[simp] theorem readsBack_timestamp (t : Calendar.Timestamp) : timestamp.ReadsBack t := by
  refine Checked.ofCause_eq_ok.mpr ?_
  show readTimestamp (.text (String.ofList t.write)) = .ok t
  rw [readTimestamp, String.toList_ofList, t.read?_write]

/-- Where every value is read back, those that were read are. -/
theorem isFaithful_of_readsBack {s : Schema α} (each : ∀ a, s.ReadsBack a) : s.IsFaithful :=
  fun _ a _ => each a

@[simp] theorem isFaithful_text : text.IsFaithful := isFaithful_of_readsBack readsBack_text

@[simp] theorem isFaithful_integer : integer.IsFaithful := isFaithful_of_readsBack readsBack_integer

@[simp] theorem isFaithful_truth : truth.IsFaithful := isFaithful_of_readsBack readsBack_truth

@[simp] theorem isFaithful_anyObject : anyObject.IsFaithful :=
  isFaithful_of_readsBack readsBack_anyObject

@[simp] theorem isFaithful_warmth : warmth.IsFaithful := isFaithful_of_readsBack readsBack_warmth

@[simp] theorem isFaithful_category : category.IsFaithful :=
  isFaithful_of_readsBack readsBack_category

@[simp] theorem isFaithful_intentKind : intentKind.IsFaithful :=
  isFaithful_of_readsBack readsBack_intentKind

@[simp] theorem isFaithful_timestamp : timestamp.IsFaithful :=
  isFaithful_of_readsBack readsBack_timestamp

/-- The empty text is not read, so only texts that were read are read back. -/
@[simp] theorem isFaithful_nonEmptyText : nonEmptyText.IsFaithful := by
  intro v s read
  obtain ⟨-, some⟩ := read_nonEmptyText_eq_ok_iff.mp read
  exact read_nonEmptyText_eq_ok_iff.mpr ⟨rfl, some⟩

@[simp] theorem writesNoNull_text : text.WritesNoNull := fun _ => Json.noConfusion

@[simp] theorem writesNoNull_integer : integer.WritesNoNull := fun _ => Json.noConfusion

@[simp] theorem writesNoNull_truth : truth.WritesNoNull := fun _ => Json.noConfusion

@[simp] theorem writesNoNull_timestamp : timestamp.WritesNoNull := fun _ => Json.noConfusion

@[simp] theorem writesNoNull_list (item : Schema α) : (list item).WritesNoNull :=
  fun _ => Json.noConfusion

@[simp] theorem writesNoNull_table (value : Schema α) : (table value).WritesNoNull :=
  fun _ => Json.noConfusion

/-! ## Values that may be missing -/

@[simp] theorem readsBack_none (value : Schema α) : (optional value).ReadsBack none := rfl

@[simp] theorem isFaithful_optional {value : Schema α} (some : value.WritesNoNull)
    (faithful : value.IsFaithful) : (optional value).IsFaithful := by
  intro v a? read
  rcases read_optional_eq_ok_iff.mp read with ⟨-, rfl⟩ | ⟨-, a, given, rfl⟩
  · exact readsBack_none value
  · exact read_optional_eq_ok_iff.mpr (.inr ⟨some a, a, faithful v a given, rfl⟩)

/-! ## Arrays and tables -/

@[simp] theorem readsBack_nil (item : Schema α) : (list item).ReadsBack [] := rfl

@[simp] theorem isFaithful_list {item : Schema α} (faithful : item.IsFaithful) :
    (list item).IsFaithful := by
  intro v values read
  obtain ⟨items, -, each⟩ := read_list_eq_ok_iff.mp read
  have back : ∀ a ∈ values, item.ReadsBack a := by
    intro a member
    obtain ⟨w, -, given⟩ := exists_of_mem_of_forall₂ each member
    exact faithful w a given
  refine read_list_eq_ok_iff.mpr ⟨values.map item.write, rfl, ?_⟩
  rw [List.forall₂_map_left_iff, List.forall₂_same]
  exact back

@[simp] theorem isFaithful_table {value : Schema α} (faithful : value.IsFaithful) :
    (table value).IsFaithful := by
  intro v entries read
  obtain ⟨given, pairs, -, each, rfl⟩ := read_table_eq_ok_iff.mp read
  have short : ∀ p ∈ pairs, Text.IsShort p.1 := by
    intro p member
    obtain ⟨entry, -, key, -⟩ := exists_of_mem_of_forall₂ each member
    exact isShort_of_integerOfText key
  have back : ∀ p ∈ pairs, value.ReadsBack p.2 := by
    intro p member
    obtain ⟨entry, -, -, given⟩ := exists_of_mem_of_forall₂ each member
    exact faithful _ _ given
  -- The keys that are kept differ, so the entries are kept as they are when they are read again.
  refine read_table_eq_ok_iff.mpr ⟨_, KeyedList.ofPairs pairs, rfl, ?_,
    KeyedList.ofPairs_of_nodup (KeyedList.nodup_keys_ofPairs pairs)⟩
  rw [List.forall₂_map_left_iff, List.forall₂_same]
  rintro ⟨n, a⟩ member
  constructor
  · have listed : n ∈ (KeyedList.ofPairs pairs).keys := List.mem_map_of_mem member
    rw [KeyedList.keys_ofPairs, List.mem_eraseDups] at listed
    obtain ⟨p, among, rfl⟩ := List.mem_map.mp listed
    rw [String.toList_ofList]
    exact integerOfText_intText (short p among)
  · obtain ⟨p, among, rfl⟩ := KeyedList.value_of_mem_ofPairs member
    exact back p among

end Schema

/-! ## Fields -/

namespace Fields

/-- The values of fields, one for each. -/
def Row : {σ α : Type} → Fields σ α → Type
  | _, _, .nil _ => Unit
  | _, _, .snoc (β := β) before _ _ _ _ _ => before.Row × β

/-- What is made of the values of fields. -/
def make : {σ α : Type} → (fields : Fields σ α) → fields.Row → α
  | _, _, .nil make, _ => make
  | _, _, .snoc before _ _ _ _ _, row => before.make row.1 row.2

/-- The values of fields, taken from a record. -/
def parts : {σ α : Type} → (fields : Fields σ α) → σ → fields.Row
  | _, _, .nil _, _ => ()
  | _, _, .snoc before _ _ _ _ get, r => (before.parts r, get r)

/-- The names under which fields are written. -/
def wires : {σ α : Type} → Fields σ α → List String
  | _, _, .nil _ => []
  | _, _, .snoc before _ wire _ _ _ => before.wires ++ [wire]

/-- Whatever is read in these fields is read back, and so is what stands for a missing one. -/
def AreFaithful : {σ α : Type} → Fields σ α → Prop
  | _, _, .nil _ => True
  | _, _, .snoc before _ _ value absent _ => before.AreFaithful ∧
    value.IsFaithful ∧ ∀ b ∈ absent, value.ReadsBack b

theorem keys_write : {σ α : Type} → (fields : Fields σ α) → (r : σ) →
    KeyedList.keys (fields.write r) = fields.wires
  | _, _, .nil _, _ => rfl
  | _, _, .snoc before _ wire _ _ _, r => by
    rw [Fields.write, KeyedList.keys_append, before.keys_write r, wires]
    rfl

/-- Fields that were read have values that are read again from wherever they are written. The values
are kept in a row, for a field is not a record yet from which they could be taken. -/
theorem read_of_read : {σ α : Type} → (fields : Fields σ α) → fields.AreFaithful →
    {given : KeyedList String Json} → {a : α} → fields.read given = .ok a →
    ∃ row, fields.make row = a ∧ ∀ (r : σ) (whole : KeyedList String Json), fields.parts r = row →
      (∀ p ∈ fields.write r, whole.get? p.1 = some p.2) → fields.read whole = .ok a
  | _, _, .nil make, _, _, a, read => by
    rw [read_nil] at read
    cases read
    exact ⟨(), rfl, fun _ whole _ _ => read_nil make whole⟩
  | _, _, .snoc before name wire value absent get, each, given, a, read => by
    obtain ⟨others, faithful, default⟩ := each
    obtain ⟨make, b, first, last, rfl⟩ := read_snoc_eq_ok_iff.mp read
    obtain ⟨row, rfl, again⟩ := before.read_of_read others first
    have back : value.ReadsBack b := by
      rcases readField_eq_ok_iff.mp last with ⟨v, -, read⟩ | ⟨-, missing⟩
      · exact faithful v b read
      · exact default b missing
    refine ⟨(row, b), rfl, ?_⟩
    -- A field is looked up in the whole of what is written, not only in its own part of it.
    intro r whole same written
    obtain ⟨front, rfl⟩ := Prod.mk.inj same
    rw [Fields.write, List.forall_mem_append] at written
    refine read_snoc_eq_ok_iff.mpr ⟨_, get r, again r whole front written.1, ?_, rfl⟩
    refine readField_eq_ok_iff.mpr (.inl ⟨value.write (get r), ?_, back⟩)
    exact fieldValue?_of_wire name (written.2 _ (List.mem_singleton_self _))

section Builders

variable {name wire : String} {value : Schema β}

@[simp] theorem areFaithful_nil (f : α) : (nil f : Fields σ α).AreFaithful :=
  trivial

@[simp] theorem areFaithful_required {before : Fields σ (β → α)} {get : σ → β} :
    (before.required name wire value get).AreFaithful ↔ before.AreFaithful ∧ value.IsFaithful :=
  and_congr_right fun _ => and_iff_left nofun

@[simp] theorem areFaithful_withDefault {before : Fields σ (β → α)} {get : σ → β} {absent : β} :
    (before.withDefault name wire value absent get).AreFaithful ↔
      before.AreFaithful ∧ value.IsFaithful ∧ value.ReadsBack absent := by
  simp [withDefault, AreFaithful]

@[simp] theorem areFaithful_maybe {before : Fields σ (Option β → α)} {get : σ → Option β} :
    (before.maybe name wire value get).AreFaithful ↔
      before.AreFaithful ∧ value.optional.IsFaithful := by
  simp [maybe, AreFaithful]

end Builders

end Fields

/-! ## Records -/

/-- A record of faithful fields under different names, from which its fields can be taken again. -/
theorem Schema.isFaithful_record {fields : Fields α α}
    (taken : ∀ row, fields.parts (fields.make row) = row) (distinct : fields.wires.Nodup)
    (faithful : fields.AreFaithful) : (record fields).IsFaithful := by
  intro v a read
  obtain ⟨given, -, read⟩ := read_record_eq_ok_iff.mp read
  obtain ⟨row, rfl, again⟩ := fields.read_of_read faithful read
  refine read_record_eq_ok_iff.mpr ⟨_, rfl, again _ _ (taken row) ?_⟩
  rintro ⟨wire, value⟩ written
  refine KeyedList.get?_of_mem ?_ written
  rwa [fields.keys_write]

end ContactSearch.Wire
