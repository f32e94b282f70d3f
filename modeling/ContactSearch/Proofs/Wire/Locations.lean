import ContactSearch.Proofs.Wire.FieldNames

/-!
# Where issues are located

The place of an issue leads into the value that was read. At every object on the way it names a field
by the key under which the field is given there, and by the wire name where it is missing. So the place
of an issue follows from what was given, and two spellings of one field are told apart in it.
-/

namespace ContactSearch.Wire

variable {σ α β γ : Type}

/-! ## Places in a value -/

mutual

/-- The steps lead to a place in a value that a schema sees there. -/
inductive Schema.Leads : {α : Type} → Schema α → Json → List Step → Prop
  | here {α : Type} {s : Schema α} {v : Json} : Schema.Leads s v []
  | inSome {α : Type} {value : Schema α} {v : Json} {path : List Step}
      (within : Schema.Leads value v path) : Schema.Leads (.optional value) v path
  | inItem {α : Type} {item : Schema α} {items : List Json} {index : Nat} {v : Json}
      {path : List Step} (found : items[index]? = some v) (within : Schema.Leads item v path) :
      Schema.Leads (.list item) (.array items) (.item index :: path)
  | inEntry {α : Type} {value : Schema α} {entries : List (String × Json)} {key : String} {v : Json}
      {path : List Step} (found : (key, v) ∈ entries) (within : Schema.Leads value v path) :
      Schema.Leads (.table value) (.object entries) (.entry key :: path)
  /-- A key of a table is a place of its own. -/
  | atKey {α : Type} {value : Schema α} {entries : List (String × Json)} {key : String} {v : Json}
      (found : (key, v) ∈ entries) :
      Schema.Leads (.table value) (.object entries) [.entry key, .entry "[key]"]
  | inRecord {α : Type} {fields : Fields α α} {given : KeyedList String Json} {path : List Step}
      (within : Fields.Leads fields given path) : Schema.Leads (.record fields) (.object given) path

/-- The steps lead to a place in an object: to a field, given or missing, and on into its value. -/
inductive Fields.Leads : {σ α : Type} → Fields σ α → KeyedList String Json → List Step → Prop
  | inField {σ α β : Type} {fields : Fields σ α} {name wire : String} {value : Schema β}
      {given : KeyedList String Json} {v : Json} {path : List Step}
      (known : fields.Has name wire value) (found : fieldValue? name wire given = some v)
      (within : Schema.Leads value v path) :
      Fields.Leads fields given (.field wire (fieldKey name wire given) :: path)
  | missing {σ α β : Type} {fields : Fields σ α} {name wire : String} {value : Schema β}
      {given : KeyedList String Json} (known : fields.Has name wire value)
      (nowhere : fieldValue? name wire given = none) :
      Fields.Leads fields given [.field wire wire]

end

/-- Such a field is given under its wire name, or else under its name. -/
theorem get?_fieldKey {name wire : String} {given : KeyedList String Json} {v : Json}
    (found : fieldValue? name wire given = some v) :
    given.get? (fieldKey name wire given) = some v := by
  unfold fieldValue? at found
  unfold fieldKey
  cases under : given.get? wire with
  | some w => simpa [under] using found
  | none =>
    rw [under, Option.none_or] at found
    simp [found]

/-- Fields that come before others are among them all. -/
theorem Fields.Leads.earlier {before : Fields σ (β → α)} {name wire : String} {value : Schema β}
    {absent : Option β} {get : σ → β} {given : KeyedList String Json} {path : List Step}
    (leads : before.Leads given path) :
    (Fields.snoc before name wire value absent get).Leads given path := by
  cases leads with
  | inField known found within => exact .inField (.earlier known) found within
  | missing known nowhere => exact .missing (.earlier known) nowhere

/-! ## Places of issues -/

namespace Checked

/-- Each issue of a reading is at such a place. -/
def Locates (places : List Step → Prop) (x : Checked α) : Prop :=
  ∀ issues, x = .error issues → ∀ i ∈ issues, places i.path

variable {places places' : List Step → Prop} {x : Checked α} {y : Checked β}

theorem locates_ok (a : α) : Locates places (.ok a : Checked α) :=
  nofun

theorem locates_refuse {path : List Step} {cause : Cause} {given : Json} (there : places path) :
    Locates places (refuse path cause given : Checked α) := by
  intro issues failed i member
  cases failed
  rw [List.mem_singleton.mp member]
  exact there

theorem locates_ofCause {given : Json} {read : Except Cause α} (there : places []) :
    Locates places (ofCause given read) := by
  cases read with
  | ok a => exact locates_ok a
  | error cause => exact locates_refuse there

theorem Locates.imp (located : x.Locates places) (more : ∀ path, places path → places' path) :
    x.Locates places' :=
  fun issues failed i member => more i.path (located issues failed i member)

theorem locates_map {f : α → β} (located : x.Locates places) : Locates places (x.map f) := by
  cases x with
  | ok a => exact locates_ok (f a)
  | error issues =>
    intro same failed
    cases failed
    exact located issues rfl

theorem locates_under {step : Step} (located : x.Locates fun path => places (step :: path)) :
    (x.under step).Locates places := by
  cases x with
  | ok a => exact locates_ok a
  | error issues =>
    intro outside failed i member
    cases failed
    obtain ⟨inner, inside, rfl⟩ := List.mem_map.mp member
    exact located issues rfl inner inside

theorem locates_combine {f : α → β → γ} (left : x.Locates places) (right : y.Locates places) :
    (combine f x y).Locates places := by
  cases x with
  | ok a =>
    cases y with
    | ok b => exact locates_ok (f a b)
    | error more => exact fun _ failed => right _ (congrArg Except.error (Except.error.inj failed))
  | error own =>
    cases y with
    | ok b => exact fun _ failed => left _ (congrArg Except.error (Except.error.inj failed))
    | error more =>
      intro issues failed i member
      cases failed
      exact (List.mem_append.mp member).elim (left own rfl i) (right more rfl i)

end Checked

open Checked

variable {places : List Step → Prop} {read : Json → Checked α}

theorem locates_readItems {index : Nat} {items : List Json}
    (each : ∀ k v, items[k]? = some v →
      (read v).Locates fun path => places (.item (index + k) :: path)) :
    (readItems read index items).Locates places := by
  induction items generalizing index with
  | nil => exact locates_ok []
  | cons v items ih =>
    refine locates_combine (locates_under (each 0 v rfl)) (ih fun k w found => ?_)
    rw [Nat.add_assoc, Nat.add_comm 1 k]
    exact each (k + 1) w found

theorem locates_readEntries {entries : List (String × Json)}
    (each : ∀ key v, (key, v) ∈ entries → (readEntry read key v).Locates places) :
    (readEntries read entries).Locates places := by
  induction entries with
  | nil => exact locates_ok []
  | cons entry entries ih =>
    obtain ⟨key, v⟩ := entry
    exact locates_combine (each key v List.mem_cons_self)
      (ih fun key v member => each key v (List.mem_cons_of_mem _ member))

mutual

/-- Whatever is read, each issue is located where the data leads to, by the keys that are given. -/
theorem Schema.locates_read : {α : Type} → (s : Schema α) → (v : Json) →
    (s.read v).Locates (s.Leads v)
  | _, .leaf read _, v => by
    rw [Schema.read]
    exact locates_ofCause .here
  | _, .optional value, v => by
    have within : Locates ((Schema.optional value).Leads v) ((value.read v).map some) :=
      locates_map ((value.locates_read v).imp fun _ => .inSome)
    cases v with
    | null => exact locates_ok none
    | _ => exact within
  | _, .list item, v => by
    cases v with
    | array items =>
      refine locates_readItems fun k w found => (item.locates_read w).imp fun path within => ?_
      rw [Nat.zero_add]
      exact .inItem found within
    | _ => exact locates_refuse .here
  | _, .table value, v => by
    cases v with
    | object entries =>
      refine locates_map (locates_readEntries fun key w found => locates_under ?_)
      exact locates_combine (locates_under (locates_ofCause (.atKey found)))
        ((value.locates_read w).imp fun _ => .inEntry found)
    | _ => exact locates_refuse .here
  | _, .record fields, v => by
    cases v with
    | object given => exact (fields.locates_read given).imp fun _ => .inRecord
    | _ => exact locates_refuse .here

theorem Fields.locates_read : {σ α : Type} → (fields : Fields σ α) →
    (given : KeyedList String Json) → (fields.read given).Locates (fields.Leads given)
  | _, _, .nil make, _ => locates_ok make
  | _, _, .snoc before name wire value absent get, given => by
    refine locates_combine ((before.locates_read given).imp fun _ => .earlier) ?_
    unfold readField
    cases found : fieldValue? name wire given with
    | some v => exact locates_under ((value.locates_read v).imp fun _ => .inField .last found)
    | none =>
      cases absent with
      | some a => exact locates_ok a
      | none => exact locates_refuse (.missing .last found)

end

end ContactSearch.Wire
