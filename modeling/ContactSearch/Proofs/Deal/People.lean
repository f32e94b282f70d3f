import ContactSearch.Deal.People
import ContactSearch.Proofs.Traversal

/-!
# People in the details of deals

Details whose lists hold objects, and whose ids are no lists or objects, are read without an error.
What is read are the ids that the details name, investors first, then sellers, then targets.
-/

namespace ContactSearch.People

/-! ## Details as they should be -/

/-- The items that a field lists, none where it holds no list. -/
def listed (name : String) (v : Json) : List Json :=
  match v.field? name with
  | some (.array items) => items
  | _ => []

/-- The id of the person that a field describes, unless it counts as nothing. -/
def describedId? (item : Json) (role : String) : Option Json :=
  ((item.field? role).bind (Json.field? "id")).filter fun id => !isNothing id

/-- The id of a target that is a person, unless it counts as nothing. -/
def targetedId? (item : Json) : Option Json :=
  if (item.field? "targetType").bind Json.text? = some "Person" then
    (item.field? "targetId").filter fun id => !isNothing id
  else none

/-- The ids of the people that a detail names, in reading order. -/
def personIds (detail : Json) : List Json :=
  (listed "interests" detail).flatMap (fun item =>
    ["contact", "decisionMaker"].filterMap (describedId? item)) ++
  (listed "blocks" detail).flatMap (fun item =>
    ["contact", "brokerContact"].filterMap (describedId? item)) ++
  (listed "targets" detail).filterMap targetedId?

/-- A value with fields. -/
def isObject : Json → Bool
  | .object _ => true
  | _ => false

/-- A value that can be an id: no list and no object. -/
def isScalar : Json → Bool
  | .array _ => false
  | .object _ => false
  | _ => true

/-- A field lists objects, if it is there and counts as something. -/
def ListsObjects (name : String) (v : Json) : Prop :=
  ∀ given, v.field? name = some given →
    isNothing given = true ∨ ∃ items, given = .array items ∧ ∀ item ∈ items, isObject item = true

/-- A detail that can be read: it counts as nothing, or its three fields list objects. -/
def IsDetail (detail : Json) : Prop :=
  isNothing detail = true ∨
    isObject detail = true ∧ ∀ name ∈ ["interests", "blocks", "targets"], ListsObjects name detail

/-- All ids that a detail names are integers. -/
def HasIntegerIds (detail : Json) : Prop :=
  ∀ id ∈ personIds detail, ∃ n : Int, id = .int n

/-! ## Reading them -/

theorem field_eq {v : Json} (object : isObject v = true) (name : String) :
    field name v = .ok ((v.field? name).getD .null) := by
  cases v with
  | object fields => rfl
  | _ => cases object

theorem isObject_of_mem_listed {name : String} {v item : Json} (lists : ListsObjects name v)
    (member : item ∈ listed name v) : isObject item = true := by
  unfold listed at member
  split at member
  · rename_i items given
    rcases lists _ given with none | ⟨objects, same, each⟩
    · rw [List.isEmpty_iff.mp none] at member
      cases member
    · cases same
      exact each item member
  · cases member

theorem itemsOf_eq {name : String} {v : Json} (object : isObject v = true)
    (lists : ListsObjects name v) : itemsOf name v = .ok (listed name v) := by
  unfold itemsOf listed
  rw [field_eq object]
  cases given : v.field? name with
  | none => rfl
  | some w =>
    rcases lists w given with none | ⟨items, rfl, -⟩
    · cases w with
      | array items =>
        rw [List.isEmpty_iff.mp none]
        rfl
      | _ => simp [bind, Except.bind, none, pure, Except.pure]
    · cases items <;> rfl

/-- An id that is no list and no object is taken as it is, unless it counts as nothing. -/
theorem idOf?_eq {given : Option Json}
    (scalar : ∀ id ∈ given.filter fun id => !isNothing id, isScalar id = true) :
    idOf? (given.getD .null) = .ok (given.filter fun id => !isNothing id) := by
  cases given with
  | none => rfl
  | some v =>
    unfold idOf?
    cases none : isNothing v with
    | true => simp [Option.filter, none]
    | false =>
      have scalar : isScalar v = true := scalar v (by simp [Option.filter, none])
      cases v with
      | array items => cases scalar
      | object fields => cases scalar
      | _ => simp [Option.filter, none]

theorem nestedId?_eq {item : Json} (object : isObject item = true) {role : String}
    (scalar : ∀ id ∈ describedId? item role, isScalar id = true) :
    nestedId? role item = .ok (describedId? item role) := by
  unfold nestedId?
  rw [field_eq object]
  unfold describedId? at scalar ⊢
  cases described : item.field? role with
  | none => rfl
  | some v =>
    rw [described] at scalar
    cases v with
    | object fields => exact idOf?_eq scalar
    | _ => rfl

theorem nestedIds_eq {item : Json} (object : isObject item = true) {roles : List String}
    (scalar : ∀ id ∈ roles.filterMap (describedId? item), isScalar id = true) :
    nestedIds roles item = .ok (roles.filterMap (describedId? item)) := by
  have each : ∀ role ∈ roles, nestedId? role item = .ok (describedId? item role) := by
    intro role member
    refine nestedId?_eq object ?_
    intro id named
    exact scalar id (List.mem_filterMap.mpr ⟨role, member, named⟩)
  unfold nestedIds
  rw [mapM_eq_map each]
  show Except.ok ((roles.map (describedId? item)).filterMap id) = _
  rw [List.filterMap_map, Function.id_comp]

theorem mapM_nestedIds_eq {name : String} {roles : List String} {detail : Json}
    (lists : ListsObjects name detail)
    (scalar : ∀ id ∈ (listed name detail).flatMap fun item => roles.filterMap (describedId? item),
      isScalar id = true) :
    (listed name detail).mapM (nestedIds roles) =
      .ok ((listed name detail).map fun item => roles.filterMap (describedId? item)) := by
  refine mapM_eq_map fun item member => ?_
  refine nestedIds_eq (isObject_of_mem_listed lists member) ?_
  intro id named
  exact scalar id (List.mem_flatMap.mpr ⟨item, member, named⟩)

theorem targetId?_eq {item : Json} (object : isObject item = true)
    (scalar : ∀ id ∈ targetedId? item, isScalar id = true) :
    targetId? item = .ok (targetedId? item) := by
  unfold targetId?
  rw [field_eq object, field_eq object]
  unfold targetedId? at scalar ⊢
  cases kind : item.field? "targetType" with
  | none => rfl
  | some v =>
    cases v with
    | text s =>
      by_cases person : s = "Person"
      · subst person
        rw [kind] at scalar
        exact idOf?_eq scalar
      · simp [bind, Except.bind, person, Json.text?, pure, Except.pure]
    | _ => rfl

theorem personIds_of_isNothing {detail : Json} (none : isNothing detail = true) :
    personIds detail = [] := by
  cases detail with
  | object fields =>
    rw [List.isEmpty_iff.mp none]
    rfl
  | _ => rfl

/-- A detail that can be read, with ids that are no lists or objects, gives the ids it names. -/
theorem detailIds_eq {detail : Json} (wellFormed : IsDetail detail)
    (scalar : ∀ id ∈ personIds detail, isScalar id = true) :
    detailIds detail = .ok (personIds detail) := by
  unfold detailIds
  by_cases none : isNothing detail = true
  · rw [if_pos none, personIds_of_isNothing none]
    rfl
  · obtain ⟨object, lists⟩ := wellFormed.resolve_left none
    simp only [List.forall_mem_cons] at lists
    obtain ⟨interests, blocks, targets, -⟩ := lists
    simp only [personIds, List.forall_mem_append] at scalar
    obtain ⟨⟨fromInterests, fromBlocks⟩, fromTargets⟩ := scalar
    have sought : ∀ item ∈ listed "targets" detail, targetId? item = .ok (targetedId? item) := by
      intro item member
      refine targetId?_eq (isObject_of_mem_listed targets member) ?_
      exact fun id named => fromTargets id (List.mem_filterMap.mpr ⟨item, member, named⟩)
    rw [if_neg none, itemsOf_eq object interests, itemsOf_eq object blocks,
      itemsOf_eq object targets]
    show ((listed "interests" detail).mapM (nestedIds _) >>= fun investors =>
      (listed "blocks" detail).mapM (nestedIds _) >>= fun sellers =>
      (listed "targets" detail).mapM targetId? >>= fun targets =>
      Except.ok (investors.flatten ++ sellers.flatten ++ targets.filterMap id)) = _
    rw [mapM_nestedIds_eq interests fromInterests, mapM_nestedIds_eq blocks fromBlocks,
      mapM_eq_map sought]
    show Except.ok (_ ++ _ ++ ((listed "targets" detail).map targetedId?).filterMap id) = _
    rw [List.filterMap_map, Function.id_comp]
    rfl

/-- Details that can be read give the distinct ids that they name. -/
theorem collect_eq {details : List Json} (each : ∀ detail ∈ details, IsDetail detail)
    (scalar : ∀ detail ∈ details, ∀ id ∈ personIds detail, isScalar id = true) :
    collect (.array details) = .ok (distinct (details.flatMap personIds)) := by
  have read : ∀ detail ∈ details, detailIds detail = .ok (personIds detail) :=
    fun detail member => detailIds_eq (each detail member) (scalar detail member)
  unfold collect
  show (details.mapM detailIds >>= fun ids => Except.ok (distinct ids.flatten)) = _
  rw [mapM_eq_map read]
  rfl

/-- Nothing is added to the ids. -/
theorem mem_of_mem_distinct {ids : List Json} {v : Json} (member : v ∈ distinct ids) : v ∈ ids := by
  have onto : ∀ seen : List Json, v ∈ ids.foldl addNew seen → v ∈ seen ∨ v ∈ ids := by
    clear member
    induction ids with
    | nil => exact fun seen member => .inl member
    | cons id ids ih =>
      intro seen member
      rcases ih _ member with early | late
      · unfold addNew at early
        split at early
        · exact .inl early
        · rcases List.mem_append.mp early with before | last
          · exact .inl before
          · exact .inr (List.mem_singleton.mp last ▸ List.mem_cons_self)
      · exact .inr (List.mem_cons_of_mem id late)
  rcases onto [] member with none | found
  · cases none
  · exact found

end ContactSearch.People
