import ContactSearch.Json.Octets
import ContactSearch.Proofs.KeyedList

/-!
# Values nested in one another

A reader with some room for nested values either reads what a reader without bounds reads, or it
stops at the first array or object that there is no room for. What it reads is no deeper than the
room, and enough brackets in a row overflow any room, whatever follows them.
-/

namespace ContactSearch.Json

/-! ## Depth -/

mutual

/-- The number of arrays and objects in a value that hold one another. -/
def depth : Json → Nat
  | array items => depthOf items + 1
  | object fields => depthOfFields fields + 1
  | _ => 0

/-- The greatest depth of the items. -/
def depthOf : List Json → Nat
  | [] => 0
  | v :: rest => max v.depth (depthOf rest)

/-- The greatest depth of the values of fields. -/
def depthOfFields : List (String × Json) → Nat
  | [] => 0
  | (_, v) :: rest => max v.depth (depthOfFields rest)

end

/-- So many values fit into one another in a room. -/
def Fits (room : Option Nat) (d : Nat) : Prop :=
  ∀ n, room = some n → d ≤ n

variable {room inner : Option Nat} {d d' : Nat}

@[simp] theorem fits_none : Fits none d := nofun

@[simp] theorem fits_some {n : Nat} : Fits (some n) d ↔ d ≤ n := by
  simp [Fits]

theorem fits_max : Fits room (max d d') ↔ Fits room d ∧ Fits room d' := by
  cases room with
  | none => simp
  | some n => simp only [fits_some, Nat.max_le]

theorem fits_zero : Fits room 0 :=
  fun _ _ => Nat.zero_le _

/-- There is room for a value that holds others where those fit into what is left. -/
theorem fits_succ_iff : Fits room (d + 1) ↔ ∃ inner, inside? room = some inner ∧ Fits inner d := by
  match room with
  | none => simp [inside?]
  | some 0 => simp [inside?]
  | some (n + 1) => simp [inside?]

theorem fits_depthOf_iff {items : List Json} :
    Fits room (depthOf items) ↔ ∀ v ∈ items, Fits room v.depth := by
  induction items with
  | nil => simp [depthOf, fits_zero]
  | cons v items ih => simp [depthOf, fits_max, ih]

theorem fits_depthOfFields_iff {fields : List (String × Json)} :
    Fits room (depthOfFields fields) ↔ ∀ p ∈ fields, Fits room p.2.depth := by
  induction fields with
  | nil => simp [depthOfFields, fits_zero]
  | cons p fields ih => simp [depthOfFields, fits_max, ih]

/-! ## Reading with less room -/

/-- A reading is another one, or it stops for want of room. -/
def Bounds {α : Type} (x y : Except ReadError α) : Prop :=
  x = y ∨ ∃ c, x = .error (.tooDeep c)

variable {α : Type}

theorem Bounds.refl (x : Except ReadError α) : Bounds x x := .inl rfl

theorem bounds_tooDeep (c : Compound) (y : Except ReadError α) : Bounds (.error (.tooDeep c)) y :=
  .inr ⟨c, rfl⟩

/-- In each step a reader finds what the reader without bounds finds, or there is no room. -/
theorem bounds_of_steps (steps : Nat) :
    (∀ room s, Bounds (readValue room steps s) (readValue none steps s)) ∧
      (∀ room s, Bounds (readItems room steps s) (readItems none steps s)) ∧
      ∀ room s, Bounds (readPairs room steps s) (readPairs none steps s) := by
  induction steps with
  | zero => exact ⟨fun _ _ => .inl rfl, fun _ _ => .inl rfl, fun _ _ => .inl rfl⟩
  | succ steps ih =>
    obtain ⟨value, items, pairs⟩ := ih
    refine ⟨fun room s => ?value, fun room s => ?items, fun room s => ?pairs⟩
    case value =>
      unfold readValue
      split
      · exact .refl _
      · next rest =>
        cases inside? room with
        | none => exact bounds_tooDeep _ _
        | some inner =>
          simp only [inside?]
          split
          · exact .refl _
          · rcases items inner (skipGap rest) with same | ⟨c, stopped⟩
            · rw [same]
              exact .refl _
            · rw [stopped]
              exact bounds_tooDeep c _
      · next rest =>
        cases inside? room with
        | none => exact bounds_tooDeep _ _
        | some inner =>
          simp only [inside?]
          split
          · exact .refl _
          · rcases pairs inner (skipGap rest) with same | ⟨c, stopped⟩
            · rw [same]
              exact .refl _
            · rw [stopped]
              exact bounds_tooDeep c _
      · exact .refl _
    case items =>
      unfold readItems
      rcases value room s with same | ⟨c, stopped⟩
      · rw [same]
        split
        · exact .refl _
        · split
          · exact .refl _
          · next rest _ =>
            rcases items room (skipGap rest) with same | ⟨c, stopped⟩
            · rw [same]
              exact .refl _
            · rw [stopped]
              exact bounds_tooDeep c _
          · exact .refl _
      · rw [stopped]
        exact bounds_tooDeep c _
    case pairs =>
      unfold readPairs
      split
      · exact .refl _
      · next rest _ =>
        rcases value room rest with same | ⟨c, stopped⟩
        · rw [same]
          split
          · exact .refl _
          · split
            · exact .refl _
            · next rest _ =>
              rcases pairs room (skipGap rest) with same | ⟨c, stopped⟩
              · rw [same]
                exact .refl _
              · rw [stopped]
                exact bounds_tooDeep c _
            · exact .refl _
        · rw [stopped]
          exact bounds_tooDeep c _

theorem bounds_readWithin (room : Option Nat) (s : List Char) :
    Bounds (readWithin room s) (read s) := by
  unfold read readWithin
  rcases (bounds_of_steps (2 * s.length + 2)).1 room (skipGap s) with same | ⟨c, stopped⟩
  · rw [same]
    exact .refl _
  · rw [stopped]
    exact bounds_tooDeep c _

theorem overflow?_eq_some_iff {s : List Char} {c : Compound} :
    overflow? room s = some c ↔ readWithin room s = .error (.tooDeep c) := by
  unfold overflow?
  split
  · next stopped => simp [stopped]
  · next other => exact iff_of_false nofun (other c)

/-- What is read with some room is read without bounds, unless there is an overflow. -/
theorem readWithin_of_overflow?_eq_none {s : List Char} (within : overflow? room s = none) :
    readWithin room s = read s := by
  rcases bounds_readWithin room s with same | ⟨c, stopped⟩
  · exact same
  · rw [overflow?_eq_some_iff.mpr stopped] at within
    cases within

/-- What is read of octets with some room is read of them without bounds. -/
theorem readOctets_of_readOctetsWithin {octets : Text.Octets} {v : Json}
    (found : readOctetsWithin room octets = .ok v) : readOctets octets = .ok v := by
  unfold readOctetsWithin at found
  dsimp only at found
  split at found
  · cases found
  · next t decoded =>
    split at found <;> cases found
    next within =>
      have unbounded : read t = .ok v := by
        rcases bounds_readWithin room t with same | ⟨c, stopped⟩
        · rw [← same, within]
        · rw [within] at stopped
          cases stopped
      rw [readOctets, readOctetsWithin]
      simp only [decoded]
      rw [← read, unbounded]

/-! ## Reading without bounds -/

theorem readString_ne_tooDeep (s : List Char) (c : Compound) :
    readString s ≠ .error (.tooDeep c) := by
  unfold readString
  split <;> simp

theorem readKey_ne_tooDeep (s : List Char) (c : Compound) : readKey s ≠ .error (.tooDeep c) := by
  unfold readKey
  split
  · split
    · next failed =>
      intro same
      cases same
      exact readString_ne_tooDeep _ _ failed
    · split <;> simp
  · simp

theorem readUnsigned_ne_tooDeep (negative : Bool) (s : List Char) (c : Compound) :
    readUnsigned negative s ≠ .error (.tooDeep c) := by
  unfold readUnsigned
  split
  · simp
  · split
    · split <;> simp
    · simp

theorem readPlain_ne_tooDeep (s : List Char) (c : Compound) :
    readPlain s ≠ .error (.tooDeep c) := by
  unfold readPlain
  split
  case h_7 => exact readUnsigned_ne_tooDeep _ _ c
  case h_8 => exact readUnsigned_ne_tooDeep _ _ c
  all_goals simp

/-- In no step a reader without bounds stops for want of room. -/
theorem ne_tooDeep_of_steps (c : Compound) (steps : Nat) :
    (∀ s, readValue none steps s ≠ .error (.tooDeep c)) ∧
      (∀ s, readItems none steps s ≠ .error (.tooDeep c)) ∧
      ∀ s, readPairs none steps s ≠ .error (.tooDeep c) := by
  induction steps with
  | zero =>
    exact ⟨fun _ => by simp [readValue], fun _ => by simp [readItems],
      fun _ => by simp [readPairs]⟩
  | succ steps ih =>
    obtain ⟨value, items, pairs⟩ := ih
    refine ⟨fun s failed => ?value, fun s failed => ?items, fun s failed => ?pairs⟩
    case value =>
      unfold readValue at failed
      split at failed
      · split at failed <;> cases failed
        next failed => exact readString_ne_tooDeep _ _ failed
      · simp only [inside?] at failed
        split at failed
        · cases failed
        · split at failed <;> cases failed
          next failed => exact items _ failed
      · simp only [inside?] at failed
        split at failed
        · cases failed
        · split at failed <;> cases failed
          next failed => exact pairs _ failed
      · exact readPlain_ne_tooDeep _ _ failed
    case items =>
      unfold readItems at failed
      split at failed
      · next first =>
        cases failed
        exact value _ first
      · split at failed
        · cases failed
        · split at failed <;> cases failed
          next failed => exact items _ failed
        · cases failed
    case pairs =>
      unfold readPairs at failed
      split at failed
      · next key =>
        cases failed
        exact readKey_ne_tooDeep _ _ key
      · split at failed
        · next first =>
          cases failed
          exact value _ first
        · split at failed
          · cases failed
          · split at failed <;> cases failed
            next failed => exact pairs _ failed
          · cases failed

/-- A reader without bounds has room for everything. -/
@[simp] theorem overflow?_none (s : List Char) : overflow? none s = none := by
  rw [Option.eq_none_iff_forall_ne_some]
  intro c overflows
  rw [overflow?_eq_some_iff, readWithin] at overflows
  split at overflows
  · next failed =>
    cases overflows
    exact (ne_tooDeep_of_steps c _).1 _ failed
  · split at overflows <;> cases overflows

/-! ## What is read is not deeper than the room -/

section Values

variable {P : Option Nat → Json → Prop}

/-- What holds of every constant, number and text, and of arrays and objects where it holds of the
values in them, holds of whatever is read, with the room that there is for it. -/
theorem of_readValue (plain : ∀ room s v rest, readPlain s = .ok (v, rest) → P room v)
    (text : ∀ room t, P room (.text t))
    (array : ∀ room inner items, inside? room = some inner → (∀ v ∈ items, P inner v) →
      P room (.array items))
    (object : ∀ room inner pairs, inside? room = some inner →
      (∀ p ∈ pairs, P inner p.2) → P room (.object (KeyedList.ofPairs pairs))) (steps : Nat) :
    (∀ room s v rest, readValue room steps s = .ok (v, rest) → P room v) ∧
      (∀ room s items rest, readItems room steps s = .ok (items, rest) → ∀ v ∈ items, P room v) ∧
      ∀ room s pairs rest, readPairs room steps s = .ok (pairs, rest) → ∀ p ∈ pairs, P room p.2 := by
  induction steps with
  | zero => exact ⟨nofun, nofun, nofun⟩
  | succ steps ih =>
    obtain ⟨value, items, pairs⟩ := ih
    refine ⟨?value, ?items, ?pairs⟩
    case value =>
      intro room s v rest read
      unfold readValue at read
      split at read
      · split at read <;> cases read
        exact text room _
      · split at read
        · cases read
        · next inner there =>
          split at read
          · cases read
            exact array room inner [] there nofun
          · split at read <;> cases read
            next found => exact array room inner _ there (items _ _ _ _ found)
      · split at read
        · cases read
        · next inner there =>
          split at read
          · cases read
            exact object room inner [] there nofun
          · split at read <;> cases read
            next found => exact object room inner _ there (pairs _ _ _ _ found)
      · exact plain room _ _ _ read
    case items =>
      intro room s list rest read
      unfold readItems at read
      split at read
      · cases read
      · next first =>
        split at read
        · cases read
          exact List.forall_mem_singleton.mpr (value _ _ _ _ first)
        · split at read <;> cases read
          next more => exact List.forall_mem_cons.mpr ⟨value _ _ _ _ first, items _ _ _ _ more⟩
        · cases read
    case pairs =>
      intro room s list rest read
      unfold readPairs at read
      split at read
      · cases read
      · split at read
        · cases read
        · next first =>
          split at read
          · cases read
            exact List.forall_mem_singleton.mpr (value _ _ _ _ first)
          · split at read <;> cases read
            next more => exact List.forall_mem_cons.mpr ⟨value _ _ _ _ first, pairs _ _ _ _ more⟩
          · cases read

end Values

/-- A value that is no text, no array and no object. -/
def IsPlain : Json → Prop
  | null | bool _ | int _ | real _ => True
  | _ => False

theorem isPlain_of_readUnsigned {negative : Bool} {t rest : List Char} {v : Json}
    (read : readUnsigned negative t = .ok (v, rest)) : v.IsPlain := by
  unfold readUnsigned at read
  split at read
  · cases read
  · split at read
    · split at read
      · cases read
      · cases read
        trivial
    · cases read
      trivial

theorem isPlain_of_readPlain {t rest : List Char} {v : Json} (read : readPlain t = .ok (v, rest)) :
    v.IsPlain := by
  unfold readPlain at read
  split at read
  case h_7 => exact isPlain_of_readUnsigned read
  case h_8 => exact isPlain_of_readUnsigned read
  all_goals
    cases read
    trivial

theorem IsPlain.depth_eq {v : Json} (plain : v.IsPlain) : v.depth = 0 := by
  cases v with
  | array _ => cases plain
  | object _ => cases plain
  | _ => rfl

/-- Nothing deeper than the room is read. -/
theorem fits_of_readWithin {s : List Char} {v : Json} (found : readWithin room s = .ok v) :
    Fits room v.depth := by
  have each := of_readValue (P := fun room v => Fits room v.depth)
    (fun room s v rest read => by
      rw [(isPlain_of_readPlain read).depth_eq]
      exact fits_zero)
    (fun room t => fits_zero)
    (fun room inner items there fits => by
      rw [depth]
      exact fits_succ_iff.mpr ⟨inner, there, fits_depthOf_iff.mpr fits⟩)
    (fun room inner pairs there fits => by
      rw [depth]
      refine fits_succ_iff.mpr ⟨inner, there, fits_depthOfFields_iff.mpr fun p member => ?_⟩
      obtain ⟨q, listed, same⟩ := KeyedList.value_of_mem_ofPairs member
      rw [← same]
      exact fits q listed)
  unfold readWithin at found
  split at found
  · cases found
  · next read =>
    split at found <;> cases found
    exact (each _).1 _ _ _ _ read

/-! ## Brackets in a row -/

theorem readValue_brackets {n m : Nat} (more : n < m) (rest : List Char) {steps : Nat}
    (enough : 2 * n < steps) : readValue (some n) steps (List.replicate m '[' ++ rest) =
      .error (.tooDeep .array) := by
  induction n generalizing m steps with
  | zero =>
    obtain ⟨m, rfl⟩ := Nat.exists_eq_add_of_lt more
    obtain ⟨steps, rfl⟩ := Nat.exists_eq_add_of_lt enough
    rfl
  | succ n ih =>
    -- The bracket behind this one is where the items start.
    obtain ⟨m, rfl⟩ : ∃ k, m = k + 2 := ⟨m - 2, by omega⟩
    obtain ⟨steps, rfl⟩ : ∃ k, steps = k + 2 := ⟨steps - 2, by omega⟩
    have inner : readValue (some n) steps (List.replicate (m + 1) '[' ++ rest) =
        .error (.tooDeep .array) := ih (by omega) (by omega)
    have items : readItems (some n) (steps + 1) (List.replicate (m + 1) '[' ++ rest) =
        .error (.tooDeep .array) := by
      rw [readItems, inner]
    have gap : skipGap (List.replicate (m + 1) '[' ++ rest) =
        List.replicate (m + 1) '[' ++ rest := rfl
    rw [List.replicate_succ, List.cons_append, readValue]
    simp only [inside?, gap]
    split
    · next same => cases same
    · rw [items]

/-- Where there is no room for so many arrays in one another, their brackets overflow it, whether
they are closed or not. -/
theorem overflow?_brackets {m : Nat} (narrow : ¬ Fits room m) (rest : List Char) :
    overflow? room (List.replicate m '[' ++ rest) = some .array := by
  match room with
  | none => exact absurd fits_none narrow
  | some n =>
    have more : n < m := Nat.not_le.mp fun fits => narrow (fits_some.mpr fits)
    have gap : skipGap (List.replicate m '[' ++ rest) = List.replicate m '[' ++ rest := by
      obtain ⟨m, rfl⟩ := Nat.exists_eq_add_of_lt more
      rfl
    rw [overflow?_eq_some_iff, readWithin, gap, readValue_brackets more rest]
    rw [List.length_append, List.length_replicate]
    omega

/-- So many arrays in one another. -/
def nestedText (m : Nat) : List Char :=
  List.replicate m '[' ++ List.replicate m ']'

theorem overflow?_nestedText {m : Nat} (narrow : ¬ Fits room m) :
    overflow? room (nestedText m) = some .array :=
  overflow?_brackets narrow _

/-- There is usually no room for a thousand of them. -/
theorem not_fits_thousand : ¬ Fits usualRoom 1000 :=
  fun fits => absurd (fits_some.mp fits) (by decide)

end ContactSearch.Json
