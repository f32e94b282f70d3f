import ContactSearch.KeyedList
import Mathlib.Data.List.Induction
import Mathlib.Data.List.Nodup

/-!
# Laws of keyed lists

Setting a key changes its value only: the other values and the places of all keys stay, and a new
key comes last. No key is ever there twice.
-/

namespace ContactSearch

namespace KeyedList

variable {κ α : Type}

theorem keys_cons (k : κ) (v : α) (l : KeyedList κ α) : keys ((k, v) :: l) = k :: keys l := rfl

theorem keys_append (l l' : KeyedList κ α) : keys (l ++ l') = keys l ++ keys l' :=
  List.map_append

variable [BEq κ]

/-! ## Values -/

/-- Every value is the new one or was there. -/
theorem value_of_mem_set {k : κ} {v : α} {l : KeyedList κ α} {p : κ × α}
    (member : p ∈ l.set k v) : p.2 = v ∨ ∃ q ∈ l, q.2 = p.2 := by
  induction l with
  | nil => exact .inl (by rw [List.mem_singleton.mp member])
  | cons q l ih =>
    obtain ⟨k', v'⟩ := q
    rw [set] at member
    split at member
    · rcases List.mem_cons.mp member with rfl | later
      · exact .inl rfl
      · exact .inr ⟨p, List.mem_cons_of_mem _ later, rfl⟩
    · rcases List.mem_cons.mp member with rfl | later
      · exact .inr ⟨_, List.mem_cons_self, rfl⟩
      · rcases ih later with new | ⟨q, old, same⟩
        · exact .inl new
        · exact .inr ⟨q, List.mem_cons_of_mem _ old, same⟩

/-- Every value that is kept was in one of the pairs. -/
theorem value_of_mem_ofPairs {l : List (κ × α)} {p : κ × α} (member : p ∈ ofPairs l) :
    ∃ q ∈ l, q.2 = p.2 := by
  have onto : ∀ front : KeyedList κ α, p ∈ l.foldl (fun l p => l.set p.1 p.2) front →
      (∃ q ∈ front, q.2 = p.2) ∨ ∃ q ∈ l, q.2 = p.2 := by
    clear member
    induction l with
    | nil => exact fun front member => .inl ⟨p, member, rfl⟩
    | cons q l ih =>
      intro front member
      rcases ih _ member with ⟨r, set, same⟩ | ⟨r, later, same⟩
      · rcases value_of_mem_set set with new | ⟨r', old, same'⟩
        · exact .inr ⟨q, List.mem_cons_self, new.symm.trans same⟩
        · exact .inl ⟨r', old, same'.trans same⟩
      · exact .inr ⟨r, List.mem_cons_of_mem _ later, same⟩
  rcases onto [] member with ⟨q, none, -⟩ | found
  · cases none
  · exact found

theorem get?_map {β : Type} (f : α → β) (k : κ) (l : KeyedList κ α) :
    get? k (l.map fun p => (p.1, f p.2)) = (l.get? k).map f := by
  induction l with
  | nil => rfl
  | cons p l ih =>
    rw [List.map_cons, get?, get?, ih]
    split <;> rfl

theorem get?_append (k : κ) (l l' : KeyedList κ α) :
    get? k (l ++ l') = (l.get? k).or (l'.get? k) := by
  induction l with
  | nil => rfl
  | cons p l ih =>
    rw [List.cons_append, get?, get?, ih]
    split <;> rfl

theorem set_map {β : Type} (f : α → β) (k : κ) (v : α) (l : KeyedList κ α) :
    set k (f v) (l.map fun p => (p.1, f p.2)) = (l.set k v).map fun p => (p.1, f p.2) := by
  induction l with
  | nil => rfl
  | cons p l ih =>
    rw [List.map_cons, set, set, ih]
    split <;> rfl

/-! ## Keys -/

variable [LawfulBEq κ]

theorem get?_eq_none_iff {k : κ} {l : KeyedList κ α} : l.get? k = none ↔ k ∉ l.keys := by
  induction l with
  | nil => simp [get?, keys]
  | cons p l ih =>
    obtain ⟨k', v'⟩ := p
    rw [get?, keys_cons, List.mem_cons, not_or, ← ih]
    by_cases same : k' = k
    · simp [same]
    · simp [same, Ne.symm same]

/-- A key finds nothing in a pair for another key. -/
theorem get?_around_of_ne {k k' : κ} (v : α) (front back : KeyedList κ α) (other : k' ≠ k) :
    get? k (front ++ (k', v) :: back) = get? k (front ++ back) := by
  rw [get?_append, get?_append, get?, if_neg (by simpa using other)]

/-- A key finds its pair where it is in no other one. -/
theorem get?_around_self {k : κ} (v : α) {front back : KeyedList κ α}
    (once : k ∉ keys (front ++ back)) : get? k (front ++ (k, v) :: back) = some v := by
  rw [keys_append, List.mem_append, not_or] at once
  rw [get?_append, get?_eq_none_iff.mpr once.1, Option.none_or, get?, if_pos (beq_self_eq_true k)]

/-- A key that is there keeps its place. -/
theorem keys_set_of_mem {k : κ} (v : α) {l : KeyedList κ α} (member : k ∈ l.keys) :
    (l.set k v).keys = l.keys := by
  induction l with
  | nil => cases member
  | cons p l ih =>
    obtain ⟨k', v'⟩ := p
    rw [set]
    by_cases same : k' = k
    · simp [same, keys]
    · rw [keys_cons, List.mem_cons] at member
      rcases member with rfl | later
      · exact absurd rfl same
      · simp [same, keys_cons, ih later]

/-- A new key comes last. -/
theorem set_of_not_mem {k : κ} (v : α) {l : KeyedList κ α} (new : k ∉ l.keys) :
    l.set k v = l ++ [(k, v)] := by
  induction l with
  | nil => rfl
  | cons p l ih =>
    obtain ⟨k', v'⟩ := p
    rw [keys_cons, List.mem_cons, not_or] at new
    rw [set, if_neg (by simpa using Ne.symm new.1), ih new.2]
    rfl

/-- A key that is there, once, has its value replaced in its place. -/
theorem set_of_mem {k : κ} (v : α) {l : KeyedList κ α} (nodup : l.keys.Nodup)
    (member : k ∈ l.keys) : l.set k v = l.map fun p => if p.1 == k then (k, v) else p := by
  induction l with
  | nil => cases member
  | cons p l ih =>
    obtain ⟨k', v'⟩ := p
    rw [keys_cons, List.nodup_cons] at nodup
    by_cases same : k' = k
    · subst same
      have others : ∀ p ∈ l, (if p.1 == k' then (k', v) else p) = p := by
        intro p listed
        rw [if_neg]
        intro again
        exact nodup.1 (eq_of_beq again ▸ List.mem_map_of_mem listed)
      rw [set, if_pos (beq_self_eq_true k'), List.map_cons, if_pos (beq_self_eq_true k'),
        List.map_congr_left others, List.map_id']
    · rw [keys_cons, List.mem_cons] at member
      have later := member.resolve_left (Ne.symm same)
      have other : ¬ (k' == k) = true := fun equal => same (eq_of_beq equal)
      rw [set, if_neg other, List.map_cons, if_neg other, ih nodup.2 later]

theorem keys_set_of_not_mem {k : κ} (v : α) {l : KeyedList κ α} (new : k ∉ l.keys) :
    (l.set k v).keys = l.keys ++ [k] := by
  rw [set_of_not_mem v new, keys_append]
  rfl

theorem nodup_keys_set {k : κ} (v : α) {l : KeyedList κ α} (nodup : l.keys.Nodup) :
    (l.set k v).keys.Nodup := by
  by_cases member : k ∈ l.keys
  · rwa [keys_set_of_mem v member]
  · rw [keys_set_of_not_mem v member, List.nodup_append]
    refine ⟨nodup, List.nodup_singleton k, ?_⟩
    rintro a listed b last rfl
    exact member (List.mem_singleton.mp last ▸ listed)

/-- Pairs whose keys all differ stay as they are. -/
theorem ofPairs_of_nodup {l : List (κ × α)} (nodup : (keys l).Nodup) : ofPairs l = l := by
  have onto : ∀ front : KeyedList κ α, (keys (front ++ l)).Nodup →
      l.foldl (fun l p => l.set p.1 p.2) front = front ++ l := by
    clear nodup
    induction l with
    | nil => intro front _; rw [List.append_nil]; rfl
    | cons p l ih =>
      obtain ⟨k, v⟩ := p
      intro front nodup
      have new : k ∉ keys front := by
        intro member
        rw [keys_append, List.nodup_append] at nodup
        exact nodup.2.2 k member k List.mem_cons_self rfl
      have together : front.set k v ++ l = front ++ (k, v) :: l := by
        rw [set_of_not_mem v new, List.append_assoc, List.singleton_append]
      rw [List.foldl_cons, ih (front.set k v) (by rwa [together]), together]
  exact onto [] nodup

/-- Where no key is there twice, each pair holds the value of its key. -/
theorem get?_of_mem {k : κ} {v : α} {l : KeyedList κ α} (nodup : l.keys.Nodup)
    (member : (k, v) ∈ l) : l.get? k = some v := by
  induction l with
  | nil => cases member
  | cons p l ih =>
    obtain ⟨k', v'⟩ := p
    rw [keys_cons, List.nodup_cons] at nodup
    rcases List.mem_cons.mp member with same | later
    · cases same
      rw [get?, if_pos (beq_self_eq_true k)]
    · have other : k' ≠ k := by
        rintro rfl
        exact nodup.1 (List.mem_map_of_mem later)
      rw [get?, if_neg (by simpa using other), ih nodup.2 later]

/-- The value of a key stands in one of the pairs. -/
theorem mem_of_get? {k : κ} {v : α} {l : KeyedList κ α} (found : l.get? k = some v) : (k, v) ∈ l := by
  induction l with
  | nil => cases found
  | cons p l ih =>
    obtain ⟨k', v'⟩ := p
    rw [get?] at found
    by_cases same : (k' == k) = true
    · rw [if_pos same] at found
      cases found
      rw [eq_of_beq same]
      exact List.mem_cons_self
    · rw [if_neg same] at found
      exact List.mem_cons_of_mem _ (ih found)

theorem get?_eq_some_iff {k : κ} {v : α} {l : KeyedList κ α} (nodup : l.keys.Nodup) :
    l.get? k = some v ↔ (k, v) ∈ l :=
  ⟨mem_of_get?, get?_of_mem nodup⟩

theorem nodup_keys_ofPairs (l : List (κ × α)) : (ofPairs l).keys.Nodup := by
  have onto : ∀ front : KeyedList κ α, front.keys.Nodup →
      (keys (l.foldl (fun l p => l.set p.1 p.2) front)).Nodup := by
    induction l with
    | nil => exact fun _ nodup => nodup
    | cons p l ih => exact fun front nodup => ih _ (nodup_keys_set p.2 nodup)
  exact onto [] List.nodup_nil

/-- The keys are those that were set, each where it was set first. -/
theorem keys_ofPairs (l : List (κ × α)) : (ofPairs l).keys = (keys l).eraseDups := by
  induction l using List.reverseRecOn with
  | nil => rfl
  | append_singleton l p ih =>
    obtain ⟨k, v⟩ := p
    have last : ofPairs (l ++ [(k, v)]) = (ofPairs l).set k v := List.foldl_append
    have key : keys [(k, v)] = [k] := rfl
    rw [last, keys_append, key, List.eraseDups_append, ← ih]
    by_cases member : k ∈ keys l
    · have there : k ∈ (ofPairs l).keys := by rwa [ih, List.mem_eraseDups]
      rw [keys_set_of_mem v there]
      simp [List.removeAll, member]
    · have new : k ∉ (ofPairs l).keys := by rwa [ih, List.mem_eraseDups]
      rw [keys_set_of_not_mem v new]
      simp [List.removeAll, member, List.eraseDups_cons]

end KeyedList

end ContactSearch
