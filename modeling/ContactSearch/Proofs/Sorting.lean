import Mathlib.Data.List.Induction
import Mathlib.Order.Lattice

/-!
# Sorting by a key

A list is sorted by decreasing key, and items of one key stay in the order of the list. So the first
item of the sorted list that has some property is, in the list itself, the first of those with this
property whose key is greatest. It stays the same when items are repeated later in the list, and in
any order of the list when no two items share a key.
-/

namespace ContactSearch

variable {α κ : Type} [LinearOrder κ] {key : α → κ}

/-! ## The sorted list -/

section Sorted

variable (key) (l : List α)

private theorem key_trans (a b c : α) : decide (key b ≤ key a) = true →
    decide (key c ≤ key b) = true → decide (key c ≤ key a) = true := by
  simp only [decide_eq_true_eq]
  intro first second
  exact second.trans first

private theorem key_total (a b : α) :
    (decide (key b ≤ key a) || decide (key a ≤ key b)) = true := by
  simp only [Bool.or_eq_true, decide_eq_true_eq]
  exact le_total (key b) (key a)

theorem pairwise_mergeSort_key :
    (l.mergeSort fun a b => decide (key b ≤ key a)).Pairwise fun a b => key b ≤ key a := by
  have sorted := List.pairwise_mergeSort (key_trans key) (key_total key) l
  exact sorted.imp fun h => of_decide_eq_true h

/-- Items of one key already stand in order, so the sort keeps them as a sublist; there are equally
many of them before and after. -/
theorem filter_mergeSort_key (k : κ) :
    (l.mergeSort fun a b => decide (key b ≤ key a)).filter (fun a => key a = k) =
      l.filter fun a => key a = k := by
  have tied : (l.filter fun a => key a = k).Pairwise fun a b => decide (key b ≤ key a) = true := by
    refine List.Pairwise.imp_of_mem ?_ (List.pairwise_of_forall (fun _ _ => trivial))
    intro a b memberA memberB _
    have keyA := of_decide_eq_true (List.mem_filter.mp memberA).2
    have keyB := of_decide_eq_true (List.mem_filter.mp memberB).2
    simp [keyA, keyB]
  have kept := List.sublist_mergeSort (key_trans key) (key_total key) tied List.filter_sublist
  have sub := kept.filter fun a => key a = k
  rw [List.filter_filter] at sub
  simp only [Bool.and_self] at sub
  have same := ((List.mergeSort_perm l fun a b => decide (key b ≤ key a)).filter
    fun a => key a = k).length_eq
  exact (sub.eq_of_length same.symm).symm

end Sorted

/-! ## The first of the greatest -/

/-- The first of the items with a property that have the greatest key: those before it have a smaller
one, and those behind it no greater one. -/
structure IsFirstGreatest (key : α → κ) (P : α → Prop) (l : List α) (a : α) : Prop where
  holds : P a
  split : ∃ front back, l = front ++ a :: back ∧ (∀ x ∈ front, P x → key x < key a) ∧
    ∀ x ∈ back, P x → key x ≤ key a

namespace IsFirstGreatest

variable {P : α → Prop} {l : List α} {a b : α}

theorem mem (first : IsFirstGreatest key P l a) : a ∈ l := by
  obtain ⟨-, front, back, rfl, -, -⟩ := first
  exact List.mem_append_right front List.mem_cons_self

theorem key_le (first : IsFirstGreatest key P l a) (member : b ∈ l) (holds : P b) :
    key b ≤ key a := by
  obtain ⟨-, front, back, rfl, before, behind⟩ := first
  rcases List.mem_append.mp member with inFront | inRest
  · exact le_of_lt (before b inFront holds)
  · rcases List.mem_cons.mp inRest with rfl | inBack
    · exact le_refl _
    · exact behind b inBack holds

theorem unique (first : IsFirstGreatest key P l a) (other : IsFirstGreatest key P l b) : a = b := by
  have least := other.key_le first.mem first.holds
  have most := first.key_le other.mem other.holds
  obtain ⟨holds, front, back, whole, before, -⟩ := first
  obtain ⟨holds', front', back', whole', before', -⟩ := other
  rcases List.append_eq_append_iff.mp (whole.symm.trans whole') with ⟨more, there, rest⟩ | ⟨more, there, rest⟩
  · cases more with
    | nil => exact (List.cons.inj rest).1
    | cons c more =>
      obtain ⟨rfl, -⟩ := List.cons.inj rest
      exact absurd (before' a (by simp [there]) holds) (not_lt_of_ge most)
  · cases more with
    | nil => exact (List.cons.inj rest).1.symm
    | cons c more =>
      obtain ⟨rfl, -⟩ := List.cons.inj rest
      exact absurd (before b (by simp [there]) holds') (not_lt_of_ge least)

/-- The first item of the sorted list that has the property. -/
theorem of_sorted {front back : List α}
    (sorted : (l.mergeSort fun a b => decide (key b ≤ key a)) = front ++ a :: back) (holds : P a)
    (none : ∀ x ∈ front, ¬ P x) : IsFirstGreatest key P l a := by
  have greatest : ∀ x ∈ l, P x → key x ≤ key a := by
    intro x member holdsX
    rw [← (List.mergeSort_perm l fun a b => decide (key b ≤ key a)).mem_iff, sorted,
      List.mem_append, List.mem_cons] at member
    have ordered := pairwise_mergeSort_key key l
    rw [sorted] at ordered
    rcases member with inFront | rfl | inBack
    · exact absurd holdsX (none x inFront)
    · exact le_refl _
    · exact (List.pairwise_cons.mp (List.pairwise_append.mp ordered).2.1).1 x inBack
  -- Among the items of this key, the sorted list has those of the front first, and then this one.
  have tied := filter_mergeSort_key key l (key a)
  rw [sorted, List.filter_append, List.filter_cons_of_pos (by simp)] at tied
  obtain ⟨first, rest, rfl, inFirst, inRest⟩ := List.filter_eq_append_iff.mp tied.symm
  obtain ⟨more, back', rfl, other, -, -⟩ := List.filter_eq_cons_iff.mp inRest
  refine ⟨holds, first ++ more, back', by simp, ?_, ?_⟩
  · intro x member holdsX
    refine lt_of_le_of_ne (greatest x ?_ holdsX) ?_
    · rw [← List.append_assoc]
      exact List.mem_append_left _ member
    intro same
    rcases List.mem_append.mp member with early | late
    · have there : x ∈ first.filter fun a' => key a' = key a :=
        List.mem_filter.mpr ⟨early, by simpa using same⟩
      rw [inFirst] at there
      exact none x (List.mem_filter.mp there).1 holdsX
    · exact other x late (by simpa using same)
  · intro x member
    exact greatest x (by simp [member])

/-! ## Other lists of the same items -/

theorem concat {x : α} (first : IsFirstGreatest key P l a) (noGreater : P x → key x ≤ key a) :
    IsFirstGreatest key P (l ++ [x]) a := by
  obtain ⟨holds, front, back, rfl, before, behind⟩ := first
  refine ⟨holds, front, back ++ [x], by simp, before, ?_⟩
  intro y member
  rcases List.mem_append.mp member with inBack | last
  · exact behind y inBack
  · rw [List.mem_singleton.mp last]
    exact noGreater

/-- With one more item at the end of the list, it is that item or the same one as before. -/
theorem of_concat {x : α} (first : IsFirstGreatest key P (l ++ [x]) a) :
    IsFirstGreatest key P l a ∨ a = x ∧ ∀ y ∈ l, P y → key y < key x := by
  obtain ⟨holds, front, back, whole, before, behind⟩ := first
  rcases List.eq_nil_or_concat back with rfl | ⟨back, y, rfl⟩
  · obtain ⟨rfl, last⟩ := List.append_inj' whole rfl
    obtain rfl : x = a := (List.cons.inj last).1
    exact .inr ⟨rfl, before⟩
  · have whole' : l ++ [x] = (front ++ a :: back) ++ [y] := by simpa using whole
    obtain ⟨rfl, -⟩ := List.append_inj' whole' rfl
    exact .inl ⟨holds, front, back, rfl, before, fun z member => behind z (by simp [member])⟩

/-- Items that stand earlier in the list as well do not matter. -/
theorem of_eraseDups [BEq α] [LawfulBEq α] (first : IsFirstGreatest key P l.eraseDups a) :
    IsFirstGreatest key P l a := by
  induction l using List.reverseRecOn with
  | nil => exact first
  | append_singleton l x ih =>
    rw [List.eraseDups_append] at first
    by_cases member : x ∈ l
    · have gone : [x].removeAll l = [] := by simp [List.removeAll, member]
      rw [gone, List.eraseDups_nil, List.append_nil] at first
      exact (ih first).concat ((ih first).key_le member)
    · have kept : [x].removeAll l = [x] := by simp [List.removeAll, member]
      rw [kept, List.eraseDups_cons, List.filter_nil, List.eraseDups_nil] at first
      rcases first.of_concat with before | ⟨rfl, greater⟩
      · exact (ih before).concat (first.key_le (by simp))
      · exact ⟨first.holds, l, [], rfl, fun y inL => greater y (List.mem_eraseDups.mpr inL), by simp⟩

/-- Where no two items share a key, the order of the list does not matter. -/
theorem of_mem_iff {m : List α} (first : IsFirstGreatest key P l a) (same : ∀ x, x ∈ m ↔ x ∈ l)
    (distinct : ∀ x ∈ l, ∀ y ∈ l, key x = key y → x = y) : IsFirstGreatest key P m a := by
  obtain ⟨front, back, whole, new⟩ := List.eq_append_cons_of_mem ((same a).mpr first.mem)
  have inL : ∀ x ∈ front ++ back, x ∈ l := by
    intro x member
    rw [← same, whole]
    exact (List.sublist_cons_self a back).append_left front |>.mem member
  refine ⟨first.holds, front, back, whole, ?_, ?_⟩
  · intro x member holds
    have there := inL x (List.mem_append_left back member)
    refine lt_of_le_of_ne (first.key_le there holds) fun tie => new ?_
    rwa [← distinct x there a first.mem tie]
  · intro x member
    exact first.key_le (inL x (List.mem_append_right front member))

end IsFirstGreatest

end ContactSearch
