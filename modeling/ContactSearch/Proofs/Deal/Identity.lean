import ContactSearch.Deal.People
import ContactSearch.Proofs.Number.Value

/-!
# When two ids are the same

Ids are compared as values: two texts by their characters, and two numbers by how much they are,
whether they stand as a truth value, as an integer or in double precision. The comparison of
identities agrees with that for everything that can be told apart, that is for every scalar but
null and what is not a number.
-/

namespace ContactSearch.People

/-- The number that a value is; a truth value is zero or one. -/
def number? : Json → Option ℚ
  | .bool b => some (if b then 1 else 0)
  | .int n => some n
  | .real x => x.value?
  | _ => none

/-- Two ids are the same: the same text, the same number in whatever form, or the same infinity. -/
inductive Same : Json → Json → Prop
  | text (s : String) : Same (.text s) (.text s)
  | number {v w : Json} {q : ℚ} (left : number? v = some q) (right : number? w = some q) : Same v w
  | infinite (negative : Bool) : Same (.real (.infinite negative)) (.real (.infinite negative))

/-- A value that can be told from others: a truth value, a number in the form that it has in double
precision, or a text. -/
def IsId : Json → Prop
  | .bool _ => True
  | .int _ => True
  | .real x => x ≠ .nan ∧ x.IsCanonical
  | .text _ => True
  | _ => False

variable {u v w : Json}

theorem Same.symm (same : Same v w) : Same w v := by
  cases same with
  | text s => exact .text s
  | number left right => exact .number right left
  | infinite negative => exact .infinite negative

theorem Same.trans (same : Same u v) (same' : Same v w) : Same u w := by
  cases same with
  | text s => exact same'
  | infinite negative => exact same'
  | number left right =>
    cases same' with
    | text s => cases right
    | infinite negative => cases right
    | number left' right' => exact .number left (right'.trans (left'.symm.trans right))

/-- What an identity tells of an id that has it: its text, the integer that it is, or the number that
is no integer. -/
inductive Identity.Describes : Identity → Json → Prop
  | text (s : String) : Describes (.text s) (.text s)
  | integer {n : Int} {v : Json} (number : number? v = some (n : ℚ)) : Describes (.integer n) v
  | real {x : Binary64} (fractional : x.toInt? = none) : Describes (.real x) (.real x)

theorem describes_identity (id : IsId v) : (identity v).Describes v := by
  cases v with
  | null => cases id
  | array items => cases id
  | object fields => cases id
  | text s => exact .text s
  | bool b => exact .integer (by cases b <;> simp [number?])
  | int n => exact .integer rfl
  | real x =>
    cases whole : x.toInt? with
    | none =>
      have own : identity (.real x) = .real x := by simp [identity, whole]
      rw [own]
      exact .real whole
    | some n =>
      have own : identity (.real x) = .integer n := by simp [identity, whole]
      have number : number? (.real x) = some (n : ℚ) := Binary64.toInt?_eq_some_iff.mp whole
      rw [own]
      exact .integer number

/-! ## From the identity to the value -/

theorem same_real_self {x : Binary64} (id : IsId (.real x)) : Same (.real x) (.real x) := by
  cases x with
  | nan => exact absurd rfl id.1
  | infinite negative => exact .infinite negative
  | finite negative m e => exact .number rfl rfl

theorem same_of_identity_eq (left : IsId v) (right : IsId w) (one : identity v = identity w) :
    Same v w := by
  have first := describes_identity left
  have second := describes_identity right
  rw [← one] at second
  generalize identity v = i at first second
  cases first with
  | text s =>
    cases second
    exact .text s
  | integer number =>
    cases second with
    | integer number' => exact .number number number'
  | real fractional =>
    cases second
    exact same_real_self left

/-! ## From the value to the identity -/

/-- A number that is an integer has the identity of that integer; any other one has its own. -/
theorem identity_of_number {q : ℚ} (id : IsId v) (number : number? v = some q) :
    (∃ n : Int, q = n ∧ identity v = .integer n) ∨
      ((∀ n : Int, q ≠ n) ∧ ∃ x, v = .real x ∧ identity v = .real x) := by
  have described := describes_identity id
  generalize own : identity v = i at described
  cases described with
  | text s => cases number
  | integer whole =>
    rw [whole] at number
    cases number
    exact .inl ⟨_, rfl, rfl⟩
  | @real x fractional =>
    refine .inr ⟨?_, x, rfl, rfl⟩
    rintro n rfl
    rw [Binary64.toInt?_eq_some_iff.mpr number] at fractional
    cases fractional

theorem identity_eq_of_same (left : IsId v) (right : IsId w) (same : Same v w) :
    identity v = identity w := by
  cases same with
  | text s => rfl
  | infinite negative => rfl
  | @number _ _ q number number' =>
    rcases identity_of_number left number with ⟨n, rfl, own⟩ | ⟨fractional, x, rfl, -⟩
    · rcases identity_of_number right number' with ⟨n', whole, own'⟩ | ⟨fractional, -⟩
      · rw [own, own', Int.cast_inj.mp whole]
      · exact absurd rfl (fractional n)
    · rcases identity_of_number right number' with ⟨n', whole, -⟩ | ⟨-, y, rfl, -⟩
      · exact absurd whole (fractional n')
      · have nonzero : q ≠ 0 := by simpa using fractional 0
        rw [Binary64.eq_of_value?_eq left.2 right.2 nonzero number number']

/-- Ids are taken for the same one exactly where they are the same. -/
theorem sameId_iff (left : IsId v) (right : IsId w) : sameId v w = true ↔ Same v w := by
  rw [sameId, beq_iff_eq]
  exact ⟨same_of_identity_eq left right, identity_eq_of_same left right⟩

end ContactSearch.People
