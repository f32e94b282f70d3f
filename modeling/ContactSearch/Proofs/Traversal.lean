import Mathlib.Data.List.Forall2

/-!
# Traversals that can fail

A traversal of a list succeeds exactly when it succeeds at every item, and then yields the items'
values in order. Searches and filters walk their contacts in this way. Two traversals that look the
same at every item look the same as a whole.
-/

namespace ContactSearch

variable {ε α β : Type}

theorem bind_eq_ok {x : Except ε α} {f : α → Except ε β} {b : β} :
    (x >>= f) = .ok b ↔ ∃ a, x = .ok a ∧ f a = .ok b := by
  cases x with
  | error e =>
    simp only [bind, Except.bind, reduceCtorEq, false_iff]
    rintro ⟨a, h, -⟩
    cases h
  | ok a => simp [bind, Except.bind]

theorem map_eq_ok {x : Except ε α} {f : α → β} {b : β} :
    x.map f = .ok b ↔ ∃ a, x = .ok a ∧ f a = b := by
  cases x with
  | error e => simp [Except.map]
  | ok a => simp [Except.map]

theorem bind_eq_error_iff {x : Except ε α} {f : α → Except ε β} :
    (∃ e, (x >>= f) = .error e) ↔
      (∃ e, x = .error e) ∨ ∃ a, x = .ok a ∧ ∃ e, f a = .error e := by
  cases x with
  | error e => simp [bind, Except.bind]
  | ok a => simp [bind, Except.bind]

theorem mapM_eq_ok {f : α → Except ε β} {items : List α} {values : List β} :
    items.mapM f = .ok values ↔ List.Forall₂ (fun a b => f a = .ok b) items values := by
  induction items generalizing values with
  | nil => simp [pure, Except.pure, eq_comm]
  | cons a items ih =>
    rw [List.mapM_cons, bind_eq_ok, List.forall₂_cons_left_iff]
    constructor
    · rintro ⟨b, hb, h⟩
      obtain ⟨bs, hbs, h⟩ := bind_eq_ok.mp h
      cases h
      exact ⟨b, bs, hb, ih.mp hbs, rfl⟩
    · rintro ⟨b, bs, hb, hbs, rfl⟩
      refine ⟨b, hb, ?_⟩
      exact bind_eq_ok.mpr ⟨bs, ih.mpr hbs, rfl⟩

/-- Every value of a traversal comes from an item. -/
theorem exists_of_mem_of_forall₂ {R : α → β → Prop} {items : List α} {values : List β}
    (each : List.Forall₂ R items values) {b : β} (member : b ∈ values) : ∃ a ∈ items, R a b := by
  induction each with
  | nil => cases member
  | @cons a b' items values first _ ih =>
    rcases List.mem_cons.mp member with rfl | later
    · exact ⟨a, List.mem_cons_self, first⟩
    · obtain ⟨a', listed, there⟩ := ih later
      exact ⟨a', List.mem_cons_of_mem a listed, there⟩

theorem mapM_eq_map {f : α → Except ε β} {value : α → β} {items : List α}
    (each : ∀ a ∈ items, f a = .ok (value a)) : items.mapM f = .ok (items.map value) := by
  rw [mapM_eq_ok, List.forall₂_map_right_iff, List.forall₂_same]
  exact each

theorem mapM_eq_error_iff {f : α → Except ε β} {items : List α} :
    (∃ e, items.mapM f = .error e) ↔ ∃ a ∈ items, ∃ e, f a = .error e := by
  induction items with
  | nil => simp [pure, Except.pure]
  | cons a items ih =>
    rw [List.mapM_cons, List.exists_mem_cons_iff, ← ih]
    cases ha : f a with
    | error e => simp [bind, Except.bind]
    | ok b =>
      cases items.mapM f with
      | error e => simp [bind, Except.bind]
      | ok bs => simp [bind, Except.bind, pure, Except.pure]

/-! ## Two runs side by side -/

section SideBySide

variable {γ δ : Type}

/-- Two computations that look the same, and go on looking the same from values that do, look the
same as a whole: both give a value, or both the same error. -/
theorem map_bind_eq {x y : Except ε α} {f g : α → Except ε β} {look : α → γ} {after : β → δ}
    (same : x.map look = y.map look)
    (onward : ∀ a b, look a = look b → (f a).map after = (g b).map after) :
    (x >>= f).map after = (y >>= g).map after := by
  cases x with
  | error e =>
    cases y with
    | error e' =>
      rw [Except.error.inj same]
      rfl
    | ok b => cases same
  | ok a =>
    cases y with
    | error e' => cases same
    | ok b => exact onward a b (Except.ok.inj same)

theorem map_mapM_eq {f g : α → Except ε β} {look : β → γ} {as bs : List α}
    (same : List.Forall₂ (fun a b => (f a).map look = (g b).map look) as bs) :
    (as.mapM f).map (List.map look) = (bs.mapM g).map (List.map look) := by
  induction same with
  | nil => rfl
  | cons head _ ih =>
    rw [List.mapM_cons, List.mapM_cons]
    refine map_bind_eq head fun x y first => map_bind_eq ih fun xs ys rest => ?_
    show Except.ok (List.map look (x :: xs)) = Except.ok (List.map look (y :: ys))
    rw [List.map_cons, List.map_cons, first, rest]

/-- The values that are there look the same. -/
theorem map_filterMap_id_eq {look : α → γ} {found found' : List (Option α)}
    (same : found.map (Option.map look) = found'.map (Option.map look)) :
    (found.filterMap id).map look = (found'.filterMap id).map look := by
  have kept := congrArg (List.filterMap id) same
  rw [List.filterMap_map, List.filterMap_map] at kept
  rw [List.map_filterMap, List.map_filterMap]
  exact kept

end SideBySide

theorem filterMap_ite {p : α → Bool} {value : α → β} {items : List α} :
    items.filterMap (fun a => if p a then some (value a) else none) =
      (items.filter p).map value := by
  induction items with
  | nil => rfl
  | cons a items ih => by_cases h : p a <;> simp [h, ih]

end ContactSearch
