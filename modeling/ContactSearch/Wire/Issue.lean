import ContactSearch.Json.Value

/-!
# Issues

What is wrong with a value that was to be read, and where in it.
-/

namespace ContactSearch.Wire

/-- What is wrong with a value. -/
inductive Cause where
  | missing
  | notText
  | tooShort
  | notInteger
  | unreadableInteger
  | integerTooLong
  | fractionalInteger
  | notFinite
  | tooSmall
  | tooLarge
  | notTimestamp
  | unreadableTimestamp
  | notBoolean
  | unreadableBoolean
  | notMember
  | notList
  | notTable
  | notRecord
deriving Repr, DecidableEq

/-- The name of a cause in answers. -/
def Cause.code : Cause → String
  | missing => "missing"
  | notText => "string_type"
  | tooShort => "string_too_short"
  | notInteger => "int_type"
  | unreadableInteger => "int_parsing"
  | integerTooLong => "int_parsing_size"
  | fractionalInteger => "int_from_float"
  | notFinite => "finite_number"
  | tooSmall => "greater_than_equal"
  | tooLarge => "less_than_equal"
  | notTimestamp => "datetime_type"
  | unreadableTimestamp => "datetime_parsing"
  | notBoolean => "bool_type"
  | unreadableBoolean => "bool_parsing"
  | notMember => "enum"
  | notList => "list_type"
  | notTable => "dict_type"
  | notRecord => "model_type"

/-- One step into a value. -/
inductive Step where
  /-- To a field, by its wire name and the key under which it is given. -/
  | field (wire key : String)
  /-- To an entry of a table. -/
  | entry (key : String)
  /-- To an item of an array. -/
  | item (index : Nat)
deriving Repr, DecidableEq

/-- The same step, to a field as if it were given under its wire name. -/
def Step.byWire : Step → Step
  | field wire _ => field wire wire
  | entry key => entry key
  | item index => item index

/-- A cause with the place that it concerns and with what was given there; for something missing
that is the object that lacks it. -/
structure Issue where
  path : List Step
  cause : Cause
  given : Json
deriving Repr

namespace Issue

/-- The same issue seen from outside the value that a step leads to. -/
def under (step : Step) (i : Issue) : Issue :=
  { i with path := step :: i.path }

/-- The place, by the wire names of fields, and the cause. -/
def report (i : Issue) : List Step × Cause :=
  (i.path.map Step.byWire, i.cause)

end Issue

/-- A value, or all that is wrong with what was to be read as one. -/
abbrev Checked (α : Type) := Except (List Issue) α

namespace Checked

/-- One cause at the place itself. -/
def refuse {α : Type} (path : List Step) (cause : Cause) (given : Json) : Checked α :=
  .error [⟨path, cause, given⟩]

/-- What was read of a given value, or one cause at the place itself. -/
def ofCause {α : Type} (given : Json) : Except Cause α → Checked α
  | .ok a => .ok a
  | .error cause => refuse [] cause given

/-- The same reading seen from outside. -/
def under {α : Type} (step : Step) : Checked α → Checked α
  | .ok a => .ok a
  | .error issues => .error (issues.map (·.under step))

/-- Two readings at once; the issues of both are told, those of the first one first. -/
def combine {α β γ : Type} (f : α → β → γ) : Checked α → Checked β → Checked γ
  | .ok a, .ok b => .ok (f a b)
  | .ok _, .error issues => .error issues
  | .error issues, .ok _ => .error issues
  | .error issues, .error more => .error (issues ++ more)

theorem combine_eq_ok {α β γ : Type} {f : α → β → γ} {x : Checked α} {y : Checked β} {c : γ} :
    combine f x y = .ok c ↔ ∃ a b, x = .ok a ∧ y = .ok b ∧ f a b = c := by
  cases x <;> cases y <;> simp [combine]

theorem under_eq_ok {α : Type} {step : Step} {x : Checked α} {a : α} :
    under step x = .ok a ↔ x = .ok a := by
  cases x <;> simp [under]

end Checked

end ContactSearch.Wire
