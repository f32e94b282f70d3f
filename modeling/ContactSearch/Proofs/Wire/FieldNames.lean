import ContactSearch.Proofs.KeyedList
import ContactSearch.Wire.Schema
import Mathlib.Data.List.Forall2

/-!
# The names of fields

What a reading tells are the value or the fields and the causes of its issues, whatever keys the
fields were given under. Of an object a record is told nothing but what stands under the names of its
fields, and where no name serves two fields, each field is told what stands under its own two names.
-/

namespace ContactSearch.Wire

variable {σ α β γ : Type}

/-! ## What a reading tells -/

namespace Checked

/-- What a reading tells: the value, or which fields its issues concern and what their causes are. -/
def told (x : Checked α) : Except (List (List Step × Cause)) α :=
  x.mapError (List.map Issue.report)

/-- Two readings that tell the same give the same value, or issues at the same fields for the same
causes. -/
theorem told_eq_told_iff {x y : Checked α} : x.told = y.told ↔
    (∃ a, x = .ok a ∧ y = .ok a) ∨
      ∃ issues issues', x = .error issues ∧ y = .error issues' ∧
        issues.map Issue.report = issues'.map Issue.report := by
  cases x <;> cases y <;> simp [told, Except.mapError, eq_comm]

theorem told_combine {f : α → β → γ} {x x' : Checked α} {y y' : Checked β}
    (left : x.told = x'.told) (right : y.told = y'.told) :
    (combine f x y).told = (combine f x' y').told := by
  rcases told_eq_told_iff.mp left with ⟨a, rfl, rfl⟩ | ⟨issues, issues', rfl, rfl, same⟩ <;>
    rcases told_eq_told_iff.mp right with ⟨b, rfl, rfl⟩ | ⟨more, more', rfl, rfl, same'⟩
  · rfl
  · exact congrArg Except.error same'
  · exact congrArg Except.error same
  · refine congrArg Except.error ?_
    rw [List.map_append, List.map_append, same, same']

/-- It does not matter under which key a step leads to a field. -/
theorem told_under {x y : Checked α} {step step' : Step} (field : step.byWire = step'.byWire)
    (same : x.told = y.told) : (x.under step).told = (y.under step').told := by
  rcases told_eq_told_iff.mp same with ⟨a, rfl, rfl⟩ | ⟨issues, issues', rfl, rfl, alike⟩
  · rfl
  · -- The place of an issue outside follows from its place inside.
    have outside : ∀ (s : Step) (l : List Issue), (l.map (·.under s)).map Issue.report =
        (l.map Issue.report).map fun told => (s.byWire :: told.1, told.2) := by
      intro s l
      rw [List.map_map, List.map_map]
      rfl
    refine congrArg Except.error ?_
    rw [outside, outside, alike, field]

theorem told_map (f : α → β) {x y : Checked α} (same : x.told = y.told) :
    Checked.told (x.map f) = Checked.told (y.map f) := by
  rcases told_eq_told_iff.mp same with ⟨a, rfl, rfl⟩ | ⟨issues, issues', rfl, rfl, alike⟩
  · rfl
  · exact congrArg Except.error alike

end Checked

open Checked

theorem told_readItems {read : Json → Checked α} {items items' : List Json}
    (each : List.Forall₂ (fun v w => (read v).told = (read w).told) items items') (index : Nat) :
    (readItems read index items).told = (readItems read index items').told := by
  induction each generalizing index with
  | nil => rfl
  | cons first _ ih => exact told_combine (told_under rfl first) (ih (index + 1))

theorem told_readEntries {read : Json → Checked α} {entries entries' : List (String × Json)}
    (each : List.Forall₂ (fun p q => p.1 = q.1 ∧ (read p.2).told = (read q.2).told)
      entries entries') :
    (readEntries read entries).told = (readEntries read entries').told := by
  induction each with
  | nil => rfl
  | @cons p q _ _ first _ ih =>
    obtain ⟨key, v⟩ := p
    obtain ⟨key', w⟩ := q
    obtain ⟨rfl, same⟩ := first
    exact told_combine (told_under rfl (told_combine rfl same)) ih

/-- What is told of a field follows from what is told of its value, if it has one. -/
theorem told_readField {read : Json → Checked α} {name wire : String} {absent : Option α}
    {given given' : KeyedList String Json}
    (same : (fieldValue? name wire given).map (fun v => (read v).told) =
      (fieldValue? name wire given').map fun v => (read v).told) :
    (readField read name wire absent given).told = (readField read name wire absent given').told := by
  unfold readField
  cases here : fieldValue? name wire given with
  | none =>
    cases there : fieldValue? name wire given' with
    | none => cases absent <;> rfl
    | some w => simp [here, there] at same
  | some v =>
    cases there : fieldValue? name wire given' with
    | none => simp [here, there] at same
    | some w =>
      rw [here, there, Option.map_some, Option.map_some, Option.some.injEq] at same
      exact told_under rfl same

/-! ## Fields and their names -/

/-- The names under which fields may be given, two for each. -/
def Fields.names : {σ α : Type} → Fields σ α → List String
  | _, _, .nil _ => []
  | _, _, .snoc before name wire _ _ _ => before.names ++ [name, wire]

/-- A field with these two names and this schema is among the fields. -/
inductive Fields.Has {σ : Type} : {α : Type} → Fields σ α → String → String → {β : Type} →
    Schema β → Prop
  | last {α β : Type} {before : Fields σ (β → α)} {name wire : String} {value : Schema β}
      {absent : Option β} {get : σ → β} : Has (.snoc before name wire value absent get) name wire value
  | earlier {α β γ : Type} {before : Fields σ (β → α)} {name wire name' wire' : String}
      {value : Schema γ} {value' : Schema β} {absent : Option β} {get : σ → β}
      (known : Has before name wire value) :
      Has (.snoc before name' wire' value' absent get) name wire value

mutual

/-- In no record that a schema describes, a name serves two fields. -/
def Schema.hasApartNames : {α : Type} → Schema α → Bool
  | _, .leaf _ _ => true
  | _, .optional value => value.hasApartNames
  | _, .list item => item.hasApartNames
  | _, .table value => value.hasApartNames
  | _, .record fields => fields.haveApartNames

/-- No name serves two fields, in these ones and in the records within them. -/
def Fields.haveApartNames : {σ α : Type} → Fields σ α → Bool
  | _, _, .nil _ => true
  | _, _, .snoc before name wire value _ _ => before.haveApartNames &&
    !before.names.contains name && !before.names.contains wire && value.hasApartNames

end

namespace Fields

theorem haveApartNames_snoc {before : Fields σ (β → α)} {name wire : String} {value : Schema β}
    {absent : Option β} {get : σ → β} :
    (snoc before name wire value absent get).haveApartNames = true ↔
      before.haveApartNames = true ∧ name ∉ before.names ∧ wire ∉ before.names ∧
        value.hasApartNames = true := by
  simp [haveApartNames, and_assoc]

variable {fields : Fields σ α} {name wire : String} {value : Schema β}
  {given given' : KeyedList String Json}

theorem Has.mem_names (known : fields.Has name wire value) :
    name ∈ fields.names ∧ wire ∈ fields.names := by
  induction known with
  | last => simp [names]
  | earlier _ ih => simp [names, ih]

theorem Has.hasApartNames (known : fields.Has name wire value)
    (apart : fields.haveApartNames = true) : value.hasApartNames = true := by
  induction known with
  | last => exact (haveApartNames_snoc.mp apart).2.2.2
  | earlier _ ih => exact ih (haveApartNames_snoc.mp apart).1

/-- Nothing is told of an object but what stands under the names of the fields. -/
theorem told_read_of_names : {σ α : Type} → (fields : Fields σ α) →
    (∀ key ∈ fields.names, given.get? key = given'.get? key) →
      (fields.read given).told = (fields.read given').told
  | _, _, .nil make, _ => by
    rw [read, read]
  | _, _, .snoc before name wire value absent _, same => by
    rw [names, List.forall_mem_append] at same
    have own : fieldValue? name wire given = fieldValue? name wire given' := by
      rw [fieldValue?, fieldValue?, same.2 name (by simp), same.2 wire (by simp)]
    rw [read, read]
    exact told_combine (before.told_read_of_names same.1) (told_readField (by rw [own]))

/-- Where objects differ under the names of one field only, and the same is told of its value, the
same is told of them. -/
theorem told_read_of_has (known : fields.Has name wire value)
    (apart : fields.haveApartNames = true)
    (others : ∀ key, key ≠ name → key ≠ wire → given.get? key = given'.get? key)
    (own : (fieldValue? name wire given).map (fun v => (value.read v).told) =
      (fieldValue? name wire given').map fun v => (value.read v).told) :
    (fields.read given).told = (fields.read given').told := by
  induction known with
  | @last α β before name wire value absent get =>
    obtain ⟨-, noName, noWire, -⟩ := haveApartNames_snoc.mp apart
    have front : ∀ key ∈ before.names, given.get? key = given'.get? key := fun key listed =>
      others key (ne_of_mem_of_not_mem listed noName) (ne_of_mem_of_not_mem listed noWire)
    rw [read, read]
    exact told_combine (before.told_read_of_names front) (told_readField own)
  | @earlier α β γ before name wire name' wire' value value' absent get known ih =>
    obtain ⟨earlier, noName, noWire, -⟩ := haveApartNames_snoc.mp apart
    obtain ⟨listed, listed'⟩ := known.mem_names
    have last : fieldValue? name' wire' given = fieldValue? name' wire' given' := by
      rw [fieldValue?, fieldValue?,
        others name' (ne_of_mem_of_not_mem listed noName).symm
          (ne_of_mem_of_not_mem listed' noName).symm,
        others wire' (ne_of_mem_of_not_mem listed noWire).symm
          (ne_of_mem_of_not_mem listed' noWire).symm]
    rw [read, read]
    exact told_combine (ih earlier others own) (told_readField (by rw [last]))

end Fields

end ContactSearch.Wire
