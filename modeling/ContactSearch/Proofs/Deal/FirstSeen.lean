import ContactSearch.Proofs.Deal.Identity
import ContactSearch.Proofs.Deal.People
import Mathlib.Data.List.Induction

/-!
# Each person once

The ids that details name are collected in the order in which they are read, each where and as it is
first seen: an id that was seen in another detail, in another list or in another form is not taken
again. Details read after others add the ids that are new, in the order in which these details alone
would give them.
-/

namespace ContactSearch.People

/-! ## Who is named -/

/-- A detail names a person: as someone who invests or decides on that, as someone who sells or
brokers that, or as a target. Ids that count as nothing name nobody. -/
inductive NamesPerson (detail : Json) : Json → Prop
  | investor {item described id : Json} {role : String} (among : item ∈ listed "interests" detail)
      (known : role ∈ ["contact", "decisionMaker"]) (person : item.field? role = some described)
      (given : described.field? "id" = some id) (counts : isNothing id = false) :
      NamesPerson detail id
  | seller {item described id : Json} {role : String} (among : item ∈ listed "blocks" detail)
      (known : role ∈ ["contact", "brokerContact"]) (person : item.field? role = some described)
      (given : described.field? "id" = some id) (counts : isNothing id = false) :
      NamesPerson detail id
  | target {item id : Json} (among : item ∈ listed "targets" detail)
      (person : item.field? "targetType" = some (.text "Person"))
      (given : item.field? "targetId" = some id) (counts : isNothing id = false) :
      NamesPerson detail id

/-- All ids that a detail names can be told apart. -/
def HasIds (detail : Json) : Prop :=
  ∀ id ∈ personIds detail, IsId id

theorem isScalar_of_isId {id : Json} (valid : IsId id) : isScalar id = true := by
  cases id with
  | array items => cases valid
  | object fields => cases valid
  | _ => rfl

theorem describedId?_eq_some_iff {item id : Json} {role : String} :
    describedId? item role = some id ↔ ∃ described, item.field? role = some described ∧
      described.field? "id" = some id ∧ isNothing id = false := by
  simp [describedId?, Option.filter_eq_some_iff, Option.bind_eq_some_iff, ← exists_and_right,
    and_assoc]

theorem targetedId?_eq_some_iff {item id : Json} :
    targetedId? item = some id ↔ item.field? "targetType" = some (.text "Person") ∧
      item.field? "targetId" = some id ∧ isNothing id = false := by
  have text : ∀ v : Json, v.text? = some "Person" ↔ v = .text "Person" := by
    intro v
    cases v <;> simp [Json.text?]
  simp [targetedId?, Option.filter_eq_some_iff, Option.bind_eq_some_iff, text]

theorem mem_personIds_iff {detail id : Json} : id ∈ personIds detail ↔ NamesPerson detail id := by
  simp only [personIds, List.mem_append, List.mem_flatMap, List.mem_filterMap,
    describedId?_eq_some_iff, targetedId?_eq_some_iff]
  constructor
  · rintro ((⟨item, among, role, known, described, person, given, counts⟩ |
      ⟨item, among, role, known, described, person, given, counts⟩) |
        ⟨item, among, person, given, counts⟩)
    · exact .investor among known person given counts
    · exact .seller among known person given counts
    · exact .target among person given counts
  · intro named
    cases named with
    | investor among known person given counts =>
      exact .inl (.inl ⟨_, among, _, known, _, person, given, counts⟩)
    | seller among known person given counts =>
      exact .inl (.inr ⟨_, among, _, known, _, person, given, counts⟩)
    | target among person given counts => exact .inr ⟨_, among, person, given, counts⟩

/-! ## First occurrences -/

/-- The ids that occur first among those that are named, in the order in which they do. -/
structure AreFirstSeen (named ids : List Json) : Prop where
  /-- No id is there twice. -/
  distinct : ids.Pairwise fun v w => ¬ Same v w
  /-- Every id was named, and nothing before it was the same. -/
  first : ∀ id ∈ ids, ∃ before after, named = before ++ id :: after ∧ ∀ v ∈ before, ¬ Same v id
  /-- Every id that was named is there, as it was named first. -/
  complete : ∀ v ∈ named, ∃ id ∈ ids, Same id v
  /-- An id that stands before another one was named before anything that is the same as that. -/
  order : ids.Pairwise fun v w =>
    ∃ before after, named = before ++ v :: after ∧ ∀ u ∈ before ++ [v], ¬ Same u w

theorem any_sameId_iff {ids : List Json} {v : Json} (each : ∀ id ∈ ids, IsId id) (valid : IsId v) :
    ids.any (sameId v) = true ↔ ∃ id ∈ ids, Same id v := by
  rw [List.any_eq_true]
  constructor
  · rintro ⟨id, among, same⟩
    exact ⟨id, among, ((sameId_iff valid (each id among)).mp same).symm⟩
  · rintro ⟨id, among, same⟩
    exact ⟨id, among, (sameId_iff valid (each id among)).mpr same.symm⟩

/-- What was first goes on being so when more is named. -/
theorem AreFirstSeen.first_append {named ids : List Json} (seen : AreFirstSeen named ids) (v : Json) :
    ∀ id ∈ ids, ∃ before after, named ++ [v] = before ++ id :: after ∧
      ∀ u ∈ before, ¬ Same u id := by
  intro id among
  obtain ⟨before, after, rfl, new⟩ := seen.first id among
  exact ⟨before, after ++ [v], by simp, new⟩

theorem AreFirstSeen.order_append {named ids : List Json} (seen : AreFirstSeen named ids) (v : Json) :
    ids.Pairwise fun u w => ∃ before after, named ++ [v] = before ++ u :: after ∧
      ∀ t ∈ before ++ [u], ¬ Same t w := by
  refine seen.order.imp ?_
  rintro u w ⟨before, after, rfl, new⟩
  exact ⟨before, after ++ [v], by simp, new⟩

/-- One more id is named: it is added where nothing that was named is the same. -/
theorem AreFirstSeen.addNew {named ids : List Json} {v : Json} (seen : AreFirstSeen named ids)
    (each : ∀ id ∈ ids, IsId id) (valid : IsId v) :
    AreFirstSeen (named ++ [v]) (addNew ids v) := by
  unfold People.addNew
  by_cases there : ∃ id ∈ ids, Same id v
  · rw [if_pos ((any_sameId_iff each valid).mpr there)]
    refine ⟨seen.distinct, seen.first_append v, ?_, seen.order_append v⟩
    intro u member
    rcases List.mem_append.mp member with early | last
    · exact seen.complete u early
    · rwa [List.mem_singleton.mp last]
  · rw [if_neg (mt (any_sameId_iff each valid).mp there)]
    have new : ∀ u ∈ named, ¬ Same u v := by
      intro u member same
      obtain ⟨id, among, alike⟩ := seen.complete u member
      exact there ⟨id, among, alike.trans same⟩
    refine ⟨?distinct, ?first, ?complete, ?order⟩
    case distinct =>
      refine List.pairwise_append.mpr ⟨seen.distinct, List.pairwise_singleton _ v, ?_⟩
      intro id among w last same
      rw [List.mem_singleton.mp last] at same
      exact there ⟨id, among, same⟩
    case first =>
      intro id member
      rcases List.mem_append.mp member with among | last
      · exact seen.first_append v id among
      · rw [List.mem_singleton.mp last]
        exact ⟨named, [], rfl, new⟩
    case complete =>
      intro u member
      rcases List.mem_append.mp member with early | last
      · obtain ⟨id, among, same⟩ := seen.complete u early
        exact ⟨id, List.mem_append_left [v] among, same⟩
      · rw [List.mem_singleton.mp last]
        refine ⟨v, List.mem_append_right ids (List.mem_singleton_self v), ?_⟩
        exact (sameId_iff valid valid).mp (beq_self_eq_true _)
    case order =>
      refine List.pairwise_append.mpr ⟨seen.order_append v, List.pairwise_singleton _ v, ?_⟩
      intro id among w last
      obtain ⟨before, after, rfl, -⟩ := seen.first id among
      refine ⟨before, after ++ [v], by simp, ?_⟩
      intro u early
      rw [List.mem_singleton.mp last]
      refine new u ?_
      rw [List.append_cons]
      exact List.mem_append_left after early

theorem distinct_concat (ids : List Json) (v : Json) :
    distinct (ids ++ [v]) = addNew (distinct ids) v :=
  List.foldl_append

/-- Of all ids that are named one after another those that occur first are kept. -/
theorem areFirstSeen_distinct {named : List Json} (each : ∀ id ∈ named, IsId id) :
    AreFirstSeen named (distinct named) := by
  induction named using List.reverseRecOn with
  | nil => exact ⟨.nil, nofun, nofun, .nil⟩
  | append_singleton named v ih =>
    rw [List.forall_mem_append] at each
    rw [distinct_concat]
    refine (ih each.1).addNew ?_ (each.2 v (List.mem_singleton_self v))
    exact fun id kept => each.1 id (mem_of_mem_distinct kept)

/-! ## More ids after others -/

theorem sameId_congr {v w : Json} (same : sameId v w = true) (u : Json) : sameId v u = sameId w u := by
  rw [sameId, beq_iff_eq.mp same, sameId]

/-- The ids that are new are added behind those that were seen before. -/
theorem distinct_append (front back : List Json) : distinct (front ++ back) =
    distinct front ++ (distinct back).filter fun v => !(distinct front).any (sameId v) := by
  induction back using List.reverseRecOn with
  | nil => simp [distinct]
  | append_singleton back v ih =>
    rw [← List.append_assoc, distinct_concat, ih, distinct_concat, addNew, addNew, List.any_append]
    generalize distinct front = old
    generalize distinct back = others
    by_cases early : old.any (sameId v) = true
    · -- Seen in front: nothing is added, whether or not it is among the others.
      rw [early, Bool.true_or, if_pos rfl]
      split
      · rfl
      · simp [early]
    · have unseen : old.any (sameId v) = false := Bool.eq_false_iff.mpr early
      have kept : (others.filter fun w => !old.any (sameId w)).any (sameId v) =
          others.any (sameId v) := by
        rw [List.any_filter]
        refine List.any_congr rfl fun w => ?_
        cases same : sameId v w with
        | false => rw [Bool.and_false]
        | true =>
          have alike : old.any (sameId w) = old.any (sameId v) :=
            List.any_congr rfl fun u => (sameId_congr same u).symm
          rw [alike, unseen, Bool.not_false, Bool.true_and]
      rw [unseen, Bool.false_or, kept]
      split
      · rfl
      · simp [unseen]

/-! ## Collecting them -/

/-- Details that can be read, with ids that can be told apart, give the ids of the people that they
name, each once and in the order of first occurrence; and details that are read after others add the
ids that are new, in their own order. -/
theorem collect_areFirstSeen :
    (∀ details : List Json, (∀ detail ∈ details, IsDetail detail ∧ HasIds detail) →
      ∃ ids, collect (.array details) = .ok ids ∧
        AreFirstSeen (details.flatMap personIds) ids ∧
        ∀ v, v ∈ details.flatMap personIds ↔ ∃ detail ∈ details, NamesPerson detail v) ∧
    ∀ xs ys : List Json, (∀ detail ∈ xs ++ ys, IsDetail detail ∧ HasIds detail) →
      ∃ old others new, collect (.array xs) = .ok old ∧ collect (.array ys) = .ok others ∧
        collect (.array (xs ++ ys)) = .ok (old ++ new) ∧ new.Sublist others ∧
        ∀ v ∈ others, v ∈ new ↔ ∀ id ∈ old, ¬ Same id v := by
  have collected : ∀ details : List Json, (∀ detail ∈ details, IsDetail detail ∧ HasIds detail) →
      collect (.array details) = .ok (distinct (details.flatMap personIds)) := by
    intro details each
    refine collect_eq (fun detail member => (each detail member).1) ?_
    exact fun detail member id named => isScalar_of_isId ((each detail member).2 id named)
  have valid : ∀ details : List Json, (∀ detail ∈ details, IsDetail detail ∧ HasIds detail) →
      ∀ id ∈ details.flatMap personIds, IsId id := by
    intro details each id named
    obtain ⟨detail, member, named⟩ := List.mem_flatMap.mp named
    exact (each detail member).2 id named
  constructor
  · intro details each
    refine ⟨_, collected details each, areFirstSeen_distinct (valid details each), ?_⟩
    simp only [List.mem_flatMap, mem_personIds_iff, implies_true]
  · intro xs ys each
    have all := collected _ each
    rw [List.forall_mem_append] at each
    rw [List.flatMap_append, distinct_append] at all
    refine ⟨_, _, _, collected xs each.1, collected ys each.2, all, List.filter_sublist, ?_⟩
    intro v among
    have idsOld : ∀ id ∈ distinct (xs.flatMap personIds), IsId id :=
      fun id kept => valid xs each.1 id (mem_of_mem_distinct kept)
    have idV : IsId v := valid ys each.2 v (mem_of_mem_distinct among)
    rw [List.mem_filter, Bool.not_eq_true', Bool.eq_false_iff, Ne, any_sameId_iff idsOld idV]
    simp [among]

/-- A detail that names one person twice, as an integer and in double precision, and a target. -/
def fiveTwice : Json :=
  .object [
    ("interests", .array [.object [
      ("contact", .object [("id", .int 5)]),
      ("decisionMaker", .object [("id", .real (.finite false 5629499534213120 (-50)))])]]),
    ("blocks", .null),
    ("targets", .array [.object [("targetType", .text "Person"), ("targetId", .text "x")]])]

/-- A detail in which a truth value and the number that it is name one person. -/
def trueAndOne : Json :=
  .object [("blocks", .array [.object [
    ("contact", .object [("id", .bool true)]), ("brokerContact", .object [("id", .int 1)])]])]

theorem fiveAndTrue_areFirstSeen :
    (∀ detail ∈ [fiveTwice, .null, trueAndOne], IsDetail detail ∧ HasIds detail) ∧
      collect (.array [fiveTwice, .null, trueAndOne]) = .ok [.int 5, .text "x", .bool true] ∧
      AreFirstSeen ([fiveTwice, .null, trueAndOne].flatMap personIds)
        [.int 5, .text "x", .bool true] ∧
      ∃ old others new, collect (.array [fiveTwice, .null]) = .ok old ∧
        collect (.array [trueAndOne]) = .ok others ∧ old ++ new = [.int 5, .text "x", .bool true] ∧
        new.Sublist others := by
  have lists : ∀ (name : String) (item : Json), isObject item = true → ∀ v : Json,
      v.field? name = some (.array [item]) → ListsObjects name v := by
    intro name item object v field given found
    rw [field] at found
    cases found
    exact .inr ⟨_, rfl, by simpa using object⟩
  have absent : ∀ (name : String) (v : Json), v.field? name = none → ListsObjects name v := by
    intro name v none given found
    rw [none] at found
    cases found
  have fits : Binary64.Fits 5629499534213120 (-50) :=
    ⟨by decide, by decide, by decide, .inl (by decide)⟩
  have each : ∀ detail ∈ [fiveTwice, .null, trueAndOne], IsDetail detail ∧ HasIds detail := by
    simp only [List.forall_mem_cons]
    refine ⟨⟨.inr ⟨rfl, ?_⟩, ?_⟩, ⟨.inl rfl, nofun⟩, ⟨.inr ⟨rfl, ?_⟩, ?_⟩, nofun⟩
    · simp only [List.forall_mem_cons]
      refine ⟨lists _ _ rfl _ rfl, ?_, lists _ _ rfl _ rfl, nofun⟩
      rintro given ⟨⟩
      exact .inl rfl
    · have named : personIds fiveTwice =
          [.int 5, .real (.finite false 5629499534213120 (-50)), .text "x"] := rfl
      simp only [HasIds, named, List.forall_mem_cons]
      exact ⟨trivial, ⟨nofun, fits⟩, trivial, nofun⟩
    · simp only [List.forall_mem_cons]
      exact ⟨absent _ _ rfl, lists _ _ rfl _ rfl, absent _ _ rfl, nofun⟩
    · have named : personIds trueAndOne = [.bool true, .int 1] := rfl
      simp only [HasIds, named, List.forall_mem_cons]
      exact ⟨trivial, trivial, nofun⟩
  have run : collect (.array [fiveTwice, .null, trueAndOne]) =
      .ok [.int 5, .text "x", .bool true] := rfl
  obtain ⟨ids, collected, seen, -⟩ := collect_areFirstSeen.1 _ each
  obtain ⟨old, others, new, first, later, together, sub, -⟩ :=
    collect_areFirstSeen.2 [fiveTwice, .null] [trueAndOne] each
  rw [run] at collected
  cases collected
  have same : collect (.array [fiveTwice, .null, trueAndOne]) = .ok (old ++ new) := together
  rw [run] at same
  exact ⟨each, run, seen, old, others, new, first, later, (Except.ok.inj same).symm, sub⟩

end ContactSearch.People
