import ContactSearch.Proofs.Json.Nesting
import ContactSearch.Proofs.Json.Numeral
import ContactSearch.Proofs.KeyedList

/-!
# Readable values

What the reader gives is readable: its integers are not too long, its numbers of double precision
fit the format, and no object repeats a key. Such values are the ones that survive being written.
-/

namespace ContactSearch

open Text (natText maxDigits)

namespace Json

mutual

/-- A value that the reader can give. -/
def IsReadable : Json → Prop
  | int n => (natText n.natAbs).length ≤ maxDigits
  | real x => x.IsCanonical
  | array items => AreReadable items
  | object fields => (KeyedList.keys fields).Nodup ∧ AreReadableFields fields
  | _ => True

/-- All items are readable. -/
def AreReadable : List Json → Prop
  | [] => True
  | v :: rest => v.IsReadable ∧ AreReadable rest

/-- The values of all fields are readable. -/
def AreReadableFields : List (String × Json) → Prop
  | [] => True
  | (_, v) :: rest => v.IsReadable ∧ AreReadableFields rest

end

theorem areReadable_iff {items : List Json} : AreReadable items ↔ ∀ v ∈ items, v.IsReadable := by
  induction items with
  | nil => simp [AreReadable]
  | cons v items ih => simp [AreReadable, ih]

theorem areReadableFields_iff {fields : List (String × Json)} :
    AreReadableFields fields ↔ ∀ p ∈ fields, p.2.IsReadable := by
  induction fields with
  | nil => simp [AreReadableFields]
  | cons p fields ih => simp [AreReadableFields, ih]

theorem isReadable_object_iff {fields : List (String × Json)} :
    (object fields).IsReadable ↔
      (KeyedList.keys fields).Nodup ∧ ∀ p ∈ fields, p.2.IsReadable := by
  rw [IsReadable, areReadableFields_iff]

/-- An object stays readable when a readable value is set. -/
theorem isReadable_set {fields : KeyedList String Json} {v : Json} (k : String)
    (readable : (object fields).IsReadable) (value : v.IsReadable) :
    (object (fields.set k v)).IsReadable := by
  rw [isReadable_object_iff] at readable ⊢
  refine ⟨KeyedList.nodup_keys_set v readable.1, ?_⟩
  intro p member
  rcases KeyedList.value_of_mem_set member with new | ⟨q, old, same⟩
  · rwa [new]
  · rw [← same]
    exact readable.2 q old

/-! ## Numbers -/

/-- A number has no more digits than it was read from. -/
theorem length_natText_digitsValue_le {ds : List Char} (digits : IsDigits ds) :
    (natText (digitsValue ds)).length ≤ ds.length :=
  (length_natText_le_iff (List.length_pos_of_ne_nil digits.nonempty)).mpr
    (digitsValue_lt digits.digits)

theorem isDigits_of_splitDigits {s : List Char} (some_digits : (splitDigits s).1.isEmpty = false) :
    IsDigits (splitDigits s).1 := by
  refine ⟨?_, by simpa using some_digits⟩
  intro c member
  exact List.mem_takeWhile_imp member

theorem isDigits_of_wholeDigits? {s whole rest : List Char}
    (found : wholeDigits? s = some (whole, rest)) : IsDigits whole := by
  unfold wholeDigits? at found
  split at found
  · cases found
    exact isWhole_zero.toIsDigits
  · next other =>
    cases empty : (splitDigits s).1.isEmpty with
    | true => simp [empty] at found
    | false =>
      simp only [empty, Bool.false_eq_true, if_false, Option.some.injEq] at found
      cases found
      exact isDigits_of_splitDigits empty

theorem isReadable_of_readUnsigned {negative : Bool} {s rest : List Char} {v : Json}
    (read : readUnsigned negative s = .ok (v, rest)) : v.IsReadable := by
  cases found : wholeDigits? s with
  | none =>
    rw [readUnsigned, found] at read
    cases read
  | some parts =>
    obtain ⟨whole, more⟩ := parts
    rw [readUnsigned, found] at read
    simp only at read
    split at read
    · split at read
      · cases read
      · next short =>
        cases read
        have length := length_natText_digitsValue_le (isDigits_of_wholeDigits? found)
        have magnitude : (if negative = true then -(digitsValue whole : Int)
            else (digitsValue whole : Int)).natAbs = digitsValue whole := by
          split <;> omega
        show (natText (Int.natAbs _)).length ≤ maxDigits
        rw [magnitude]
        omega
    · cases read
      exact Binary64.isCanonical_ofDecimal _ _ _

theorem isReadable_of_readPlain {s rest : List Char} {v : Json}
    (read : readPlain s = .ok (v, rest)) : v.IsReadable := by
  unfold readPlain at read
  split at read
  case h_7 => exact isReadable_of_readUnsigned read
  case h_8 => exact isReadable_of_readUnsigned read
  all_goals
    cases read
    trivial

/-! ## Values -/

/-- Whatever is read, with any room, is readable. -/
theorem isReadable_of_readWithin {room : Option Nat} {s : List Char} {v : Json}
    (found : readWithin room s = .ok v) : v.IsReadable := by
  have each := of_readValue (P := fun _ v => v.IsReadable)
    (fun _ _ _ _ read => isReadable_of_readPlain read)
    (fun _ _ => trivial)
    (fun _ _ _ _ items => areReadable_iff.mpr items)
    (fun _ _ pairs _ values => by
      refine isReadable_object_iff.mpr ⟨KeyedList.nodup_keys_ofPairs _, fun p member => ?_⟩
      obtain ⟨q, listed, same⟩ := KeyedList.value_of_mem_ofPairs member
      rw [← same]
      exact values q listed)
  unfold readWithin at found
  split at found
  · cases found
  · next value =>
    split at found <;> cases found
    exact (each _).1 _ _ _ _ value

/-- Whatever is read is readable. -/
theorem isReadable_of_read {s : List Char} {v : Json} (found : read s = .ok v) : v.IsReadable :=
  isReadable_of_readWithin found

end Json

end ContactSearch
