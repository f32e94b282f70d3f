/-!
# Keyed lists

Pairs in the order in which their keys were first set. Setting a key that is there replaces its
value and keeps its place; setting a new one adds a pair at the end.
-/

namespace ContactSearch

/-- Pairs of keys and values in the order of first setting. -/
abbrev KeyedList (κ α : Type) := List (κ × α)

namespace KeyedList

variable {κ α : Type} [BEq κ]

/-- The value of a key. -/
def get? (k : κ) : KeyedList κ α → Option α
  | [] => none
  | (k', v) :: rest => if k' == k then some v else get? k rest

/-- Sets the value of a key. -/
def set (k : κ) (v : α) : KeyedList κ α → KeyedList κ α
  | [] => [(k, v)]
  | (k', v') :: rest => if k' == k then (k', v) :: rest else (k', v') :: set k v rest

/-- Sets pairs one after another, so that the last value of a key counts. -/
def ofPairs (pairs : List (κ × α)) : KeyedList κ α :=
  pairs.foldl (fun l (k, v) => l.set k v) []

/-- The keys in order. -/
def keys (l : KeyedList κ α) : List κ :=
  l.map (·.1)

theorem get?_nil (k : κ) : get? k ([] : KeyedList κ α) = none := rfl

theorem get?_set_self [ReflBEq κ] (k : κ) (v : α) (l : KeyedList κ α) :
    (l.set k v).get? k = some v := by
  induction l with
  | nil => simp [set, get?]
  | cons p l ih =>
    obtain ⟨k', v'⟩ := p
    by_cases h : k' == k <;> simp [set, get?, h, ih]

theorem get?_set_of_ne [LawfulBEq κ] {k j : κ} (v : α) (l : KeyedList κ α) (h : k ≠ j) :
    (l.set k v).get? j = l.get? j := by
  induction l with
  | nil => simp [set, get?, h]
  | cons p l ih =>
    obtain ⟨k', v'⟩ := p
    by_cases hk : k' = k
    · subst hk; simp [set, get?, h]
    · simp [set, get?, hk, ih]

end KeyedList

end ContactSearch
