import ContactSearch.Proofs.Filter.Conjunction
import ContactSearch.Proofs.Match.Score
import Mathlib.Data.List.Perm.Subperm

/-!
# Filters taken together

Two sets of filters that give different fields can be taken together. Every check looks at its own
field only, so the checks of the whole are those of the one set and those of the other, none of them
twice. A contact is kept by the whole exactly when each set keeps it; the scores add up, and the
reasons of both come in the order of the checks.
-/

namespace ContactSearch

open Calendar

/-- A list made of two lists, with the items of each in their order. -/
inductive IsMerge {α : Type} : List α → List α → List α → Prop
  | nil : IsMerge [] [] []
  | left {a : α} {xs ys zs : List α} : IsMerge xs ys zs → IsMerge (a :: xs) ys (a :: zs)
  | right {a : α} {xs ys zs : List α} : IsMerge xs ys zs → IsMerge xs (a :: ys) (a :: zs)

namespace IsMerge

theorem map {α β : Type} (f : α → β) {xs ys zs : List α} (merge : IsMerge xs ys zs) :
    IsMerge (xs.map f) (ys.map f) (zs.map f) := by
  induction merge with
  | nil => exact .nil
  | left _ ih => exact .left ih
  | right _ ih => exact .right ih

theorem total_eq {xs ys zs : List Match} (merge : IsMerge xs ys zs) :
    SearchResult.total zs = SearchResult.total xs + SearchResult.total ys := by
  induction merge with
  | nil => rfl
  | left _ ih =>
    simp only [SearchResult.total_cons, ih]
    omega
  | right _ ih =>
    simp only [SearchResult.total_cons, ih]
    omega

end IsMerge

/-! ## Outcomes side by side -/

namespace Outcome

/-- The outcome of the first check unless it is inactive, and then that of the second. -/
def or : Outcome → Outcome → Outcome
  | inactive, o => o
  | o, _ => o

theorem or_of_isActive {o : Outcome} (active : o.isActive = true) (p : Outcome) : o.or p = o := by
  cases o with
  | inactive => cases active
  | missed => rfl
  | matched m => rfl

theorem or_of_not_isActive {o : Outcome} (idle : o.isActive = false) (p : Outcome) : o.or p = p := by
  cases o with
  | inactive => rfl
  | missed => cases idle
  | matched m => cases idle

@[simp] theorem or_inactive (o : Outcome) : o.or inactive = o := by
  cases o <;> rfl

/-- The outcomes of two rows of checks of which no two in the same place are active. -/
def Apart (os ps : List Outcome) : Prop :=
  List.Forall₂ (fun o p => ¬ (o.isActive = true ∧ p.isActive = true)) os ps

variable {os ps : List Outcome}

theorem isMerge_matches (apart : Apart os ps) :
    IsMerge (os.filterMap match?) (ps.filterMap match?) ((os.zipWith or ps).filterMap match?) := by
  induction apart with
  | nil => exact .nil
  | @cons o p os ps single _ ih =>
    cases o with
    | inactive =>
      cases p with
      | matched m => exact .right ih
      | _ => exact ih
    | missed =>
      cases p with
      | inactive => exact ih
      | _ => simp at single
    | matched m =>
      cases p with
      | inactive => exact .left ih
      | _ => simp at single

theorem allMatched_or (apart : Apart os ps) :
    allMatched (os.zipWith or ps) = (allMatched os && allMatched ps) := by
  induction apart with
  | nil => rfl
  | @cons o p os ps single _ ih =>
    rw [List.zipWith_cons_cons, allMatched_cons, allMatched_cons, allMatched_cons, ih]
    cases o <;> cases p <;> simp_all [or]

theorem countP_or (apart : Apart os ps) :
    (os.zipWith or ps).countP isActive = os.countP isActive + ps.countP isActive := by
  induction apart with
  | nil => rfl
  | @cons o p os ps single _ ih =>
    rw [List.zipWith_cons_cons, List.countP_cons, List.countP_cons, List.countP_cons, ih]
    cases o <;> cases p <;> simp_all [or] <;> omega

end Outcome

/-- A result for two sets of filters together tells what the results for each of them tell. -/
structure SearchResult.Joins (a b r : SearchResult) : Prop where
  contact : r.contactId = a.contactId ∧ r.contactId = b.contactId
  score : r.score = a.score + b.score
  reasons : IsMerge a.reasons b.reasons r.reasons

theorem SearchResult.joins_ofMatches {id : Int} {xs ys zs : List Match} {intents : List Intent}
    (merge : IsMerge xs ys zs) :
    Joins (ofMatches id xs intents) (ofMatches id ys intents) (ofMatches id zs intents) where
  contact := ⟨rfl, rfl⟩
  score := merge.total_eq
  reasons := merge.map Match.reason

namespace Filters

/-! ## Both sets of filters -/

/-- The first value if it is given, and else the second. -/
def pick {α : Type} (given : α → Bool) (a b : α) : α :=
  if given a then a else b

/-- The fields that either set of filters gives. Those on deals go together. -/
def merge (f g : Filters) : Filters where
  name := pick isGiven f.name g.name
  company := pick isGiven f.company g.company
  title := pick isGiven f.title g.title
  source := pick isGiven f.source g.source
  warmth := pick isGivenList f.warmth g.warmth
  location := pick isGiven f.location g.location
  addedWithinDays := (pick limitsRecency f g).addedWithinDays
  email := pick isGiven f.email g.email
  tags := pick isGivenList f.tags g.tags
  orgKind := pick isGivenList f.orgKind g.orgKind
  orgSector := pick isGiven f.orgSector g.orgSector
  dealName := (pick namesDeals f g).dealName
  dealSector := (pick namesDeals f g).dealSector
  dealStatus := (pick namesDeals f g).dealStatus

/-- No field is given in both sets of filters; the fields on deals count as one. -/
structure Apart (f g : Filters) : Prop where
  name : ¬ (isGiven f.name = true ∧ isGiven g.name = true)
  company : ¬ (isGiven f.company = true ∧ isGiven g.company = true)
  title : ¬ (isGiven f.title = true ∧ isGiven g.title = true)
  source : ¬ (isGiven f.source = true ∧ isGiven g.source = true)
  warmth : ¬ (isGivenList f.warmth = true ∧ isGivenList g.warmth = true)
  location : ¬ (isGiven f.location = true ∧ isGiven g.location = true)
  recency : ¬ (f.limitsRecency = true ∧ g.limitsRecency = true)
  email : ¬ (isGiven f.email = true ∧ isGiven g.email = true)
  tags : ¬ (isGivenList f.tags = true ∧ isGivenList g.tags = true)
  orgKind : ¬ (isGivenList f.orgKind = true ∧ isGivenList g.orgKind = true)
  orgSector : ¬ (isGiven f.orgSector = true ∧ isGiven g.orgSector = true)
  deals : ¬ (f.namesDeals = true ∧ g.namesDeals = true)

section Checks

variable {α : Type} {f g : Filters} {context : FilterContext} {now : Timestamp} {c : Contact}

theorem checkText_pick (a b : Option String) (check : String → Option Match) :
    checkText (pick isGiven a b) check = (checkText a check).or (checkText b check) := by
  have active := isActive_checkText a check
  unfold pick
  split
  · rename_i given
    exact (Outcome.or_of_isActive (active.trans given) _).symm
  · rename_i missing
    exact (Outcome.or_of_not_isActive (active.trans (by simpa using missing)) _).symm

theorem checkList_pick (a b : Option (List α)) (check : List α → Option Match) :
    checkList (pick isGivenList a b) check = (checkList a check).or (checkList b check) := by
  have active := isActive_checkList a check
  unfold pick
  split
  · rename_i given
    exact (Outcome.or_of_isActive (active.trans given) _).symm
  · rename_i missing
    exact (Outcome.or_of_not_isActive (active.trans (by simpa using missing)) _).symm

theorem checkSector_merge : (f.merge g).checkSector context c =
    (f.checkSector context c).or (g.checkSector context c) := by
  unfold checkSector
  cases context.sectors with
  | none => rfl
  | some map => exact checkText_pick f.orgSector g.orgSector _

theorem checkDeals_merge : (f.merge g).checkDeals context c =
    (f.checkDeals context c).or (g.checkDeals context c) := by
  have picked : (f.merge g).checkDeals context c = (pick namesDeals f g).checkDeals context c := rfl
  have active := isActive_checkDeals f context c
  rw [picked, pick]
  split
  · rename_i named
    cases ids : context.matchedIds with
    | none => simp [checkDeals, ids, Outcome.or]
    | some ids' =>
      rw [named, ids] at active
      exact (Outcome.or_of_isActive active _).symm
  · rename_i unnamed
    rw [Bool.eq_false_iff.mpr unnamed, Bool.false_and] at active
    exact (Outcome.or_of_not_isActive active _).symm

theorem isActive_checkRecency {o : Outcome} (run : f.checkRecency now c = .ok o) :
    o.isActive = f.limitsRecency := by
  have dated : f.HasStart now := by
    by_contra undated
    obtain ⟨e, failed⟩ := checkRecency_error undated c
    rw [run] at failed
    cases failed
  obtain ⟨o', run', active⟩ := checkRecency_ok dated c
  rw [run] at run'
  cases run'
  exact active

theorem checkRecency_of_not_limitsRecency (free : f.limitsRecency = false) :
    f.checkRecency now c = .ok .inactive := by
  unfold limitsRecency at free
  unfold checkRecency
  cases span : f.addedWithinDays with
  | none => rfl
  | some days =>
    rw [span, Option.any_some] at free
    rw [Option.filter_some, free]
    rfl

/-- Of two filters on recency one is not given, so if either fails, no other could fail before. -/
theorem checkRecency_merge (apart : f.Apart g) : (f.merge g).checkRecency now c =
    f.checkRecency now c >>= fun o => (g.checkRecency now c).map o.or := by
  have picked : (f.merge g).checkRecency now c = (pick limitsRecency f g).checkRecency now c := rfl
  rw [picked, pick]
  split
  · rename_i given
    have free : g.limitsRecency = false := by simpa [given] using apart.recency
    rw [checkRecency_of_not_limitsRecency free]
    cases f.checkRecency now c with
    | error e => rfl
    | ok o => exact congrArg Except.ok o.or_inactive.symm
  · rename_i free
    rw [checkRecency_of_not_limitsRecency (Bool.eq_false_iff.mpr free)]
    cases g.checkRecency now c <;> rfl

/-- The checks of both are those of the one and those of the other. -/
theorem outcomesWith_merge (o p : Outcome) : (f.merge g).outcomesWith context c (o.or p) =
    (f.outcomesWith context c o).zipWith Outcome.or (g.outcomesWith context c p) := by
  simp only [outcomesWith, List.zipWith_cons_cons, List.zipWith_nil_right, ← checkText_pick,
    ← checkList_pick, ← checkSector_merge, ← checkDeals_merge]
  rfl

theorem outcomes_merge (apart : f.Apart g) : (f.merge g).outcomes context now c =
    f.outcomes context now c >>= fun os => (g.outcomes context now c).map (os.zipWith Outcome.or) := by
  rw [outcomes_eq, outcomes_eq, outcomes_eq, checkRecency_merge apart]
  cases f.checkRecency now c with
  | error e => rfl
  | ok o =>
    cases g.checkRecency now c with
    | error e => rfl
    | ok p => exact congrArg Except.ok (outcomesWith_merge o p)

theorem outcomes_merge_of_ok {os ps : List Outcome} (apart : f.Apart g)
    (first : f.outcomes context now c = .ok os) (second : g.outcomes context now c = .ok ps) :
    (f.merge g).outcomes context now c = .ok (os.zipWith Outcome.or ps) := by
  rw [outcomes_merge apart, first, second]
  rfl

/-- No two checks in the same place are active. -/
theorem apart_outcomes {os ps : List Outcome} (apart : f.Apart g)
    (run : f.outcomes context now c = .ok os) (run' : g.outcomes context now c = .ok ps) :
    Outcome.Apart os ps := by
  obtain ⟨o, recency, rfl⟩ := map_eq_ok.mp (outcomes_eq f context now c ▸ run)
  obtain ⟨p, recency', rfl⟩ := map_eq_ok.mp (outcomes_eq g context now c ▸ run')
  simp only [Outcome.Apart, outcomesWith, List.forall₂_cons, List.forall₂_nil_left_iff,
    isActive_checkText, isActive_checkList, isActive_checkSector, isActive_checkDeals,
    isActive_checkRecency recency, isActive_checkRecency recency', Bool.and_eq_true, and_true]
  refine ⟨apart.company, apart.name, apart.title, apart.source, apart.warmth, apart.recency,
    apart.location, apart.email, apart.tags, apart.orgKind, ?_, ?_⟩
  · exact fun both => apart.orgSector ⟨both.1.1, both.2.1⟩
  · exact fun both => apart.deals ⟨both.1.1, both.2.1⟩

end Checks

/-! ## What is kept -/

section Kept

variable {f g : Filters} {context : FilterContext} {now : Timestamp}

theorem activeCount_merge {c : Contact} {os ps : List Outcome} (apart : f.Apart g)
    (first : f.outcomes context now c = .ok os) (second : g.outcomes context now c = .ok ps) :
    (f.merge g).activeCount context = f.activeCount context + g.activeCount context := by
  have both := outcomes_merge_of_ok apart first second
  rw [← countP_outcomes first, ← countP_outcomes second, ← countP_outcomes both,
    Outcome.countP_or (apart_outcomes apart first second)]

/-- Where filters taken together check a contact without failing, each set does, and the active
checks matched exactly when those of each set did. -/
theorem allMatched_checks_merge {c : Contact} {qs : List Outcome} (apart : f.Apart g)
    (run : (f.merge g).outcomes context now c = .ok qs) :
    Outcome.allMatched ((f.merge g).checks context now c) =
      (Outcome.allMatched (g.checks context now c) && Outcome.allMatched (f.checks context now c)) := by
  have whole := checks_eq run
  rw [outcomes_merge apart] at run
  obtain ⟨os, first, run⟩ := bind_eq_ok.mp run
  obtain ⟨ps, second, rfl⟩ := map_eq_ok.mp run
  rw [whole, checks_eq first, checks_eq second, Bool.and_comm,
    Outcome.allMatched_or (apart_outcomes apart first second)]

/-- What filters together say of a contact, where neither set fails. -/
theorem apply_merge_singleton {c : Contact} {os ps : List Outcome} (apart : f.Apart g)
    (given : f.activeCount context ≠ 0) (first : f.outcomes context now c = .ok os)
    (second : g.outcomes context now c = .ok ps) :
    (f.merge g).apply context now [c] =
      .ok (if Outcome.allMatched os ∧ Outcome.allMatched ps then
        [SearchResult.ofMatches c.id ((os.zipWith Outcome.or ps).filterMap Outcome.match?)
          context.intents] else []) := by
  have active : (f.merge g).activeCount context ≠ 0 := by
    rw [activeCount_merge apart first second]
    omega
  have both := outcomes_merge_of_ok apart first second
  rw [apply_singleton active both, Outcome.allMatched_or (apart_outcomes apart first second)]
  simp only [Bool.and_eq_true]

/-- A contact that both sets of filters keep together is kept by the first of them alone. -/
theorem subperm_apply_merge {contacts : List Contact} {before after : List SearchResult}
    (apart : f.Apart g) (given : f.activeCount context ≠ 0)
    (run : f.apply context now contacts = .ok before)
    (run' : (f.merge g).apply context now contacts = .ok after) :
    (after.map SearchResult.contactId).Subperm (before.map SearchResult.contactId) := by
  by_cases idle : (f.merge g).activeCount context = 0
  · rw [apply_of_idle now contacts idle] at run'
    cases run'
    exact List.nil_subperm
  · have twice : (contacts.filter fun c => Outcome.allMatched ((f.merge g).checks context now c)) =
        (contacts.filter fun c => Outcome.allMatched (f.checks context now c)).filter fun c =>
          Outcome.allMatched (g.checks context now c) := by
      rw [List.filter_filter]
      refine List.filter_congr ?_
      intro c member
      exact allMatched_checks_merge apart (outcomes_of_apply run' c member)
    have listed := perm_apply idle run'
    rw [twice] at listed
    exact listed.subperm.trans
      ((List.filter_sublist.map Contact.id).subperm.trans (perm_apply given run).symm.subperm)

/-- Two sets of filters that give different fields are a conjunction: together they keep a contact
exactly when each of them keeps it, with the sum of the scores and the reasons of both. So with
further filters nothing is listed that was not listed before. -/
theorem apply_merge_isConjunction (apart : f.Apart g) (given : f.activeCount context ≠ 0) :
    (g.activeCount context ≠ 0 → ∀ c kept kept', f.apply context now [c] = .ok kept →
      g.apply context now [c] = .ok kept' → ∃ both, (f.merge g).apply context now [c] = .ok both ∧
        (both ≠ [] ↔ kept ≠ [] ∧ kept' ≠ []) ∧
        ∀ r ∈ both, ∃ a ∈ kept, ∃ b ∈ kept', SearchResult.Joins a b r) ∧
    ∀ contacts before after, f.apply context now contacts = .ok before →
      (f.merge g).apply context now contacts = .ok after →
      (after.map SearchResult.contactId).Subperm (before.map SearchResult.contactId) := by
  constructor
  · intro given' c kept kept' run run'
    have first := outcomes_of_apply run c List.mem_cons_self
    have second := outcomes_of_apply run' c List.mem_cons_self
    have together := apply_merge_singleton apart given first second
    rw [apply_singleton given first] at run
    rw [apply_singleton given' second] at run'
    cases run
    cases run'
    refine ⟨_, together, ?_, ?_⟩
    · simp
    · intro r member
      have satisfied : Outcome.allMatched (f.checks context now c) = true ∧
          Outcome.allMatched (g.checks context now c) = true := by
        by_contra unsatisfied
        rw [if_neg unsatisfied] at member
        cases member
      rw [if_pos satisfied, List.mem_singleton] at member
      subst member
      rw [if_pos satisfied.1, if_pos satisfied.2]
      refine ⟨_, List.mem_singleton_self _, _, List.mem_singleton_self _, ?_⟩
      exact SearchResult.joins_ofMatches (Outcome.isMerge_matches (apart_outcomes apart first second))
  · intro contacts before after run run'
    exact subperm_apply_merge apart given run run'

theorem adaAndHot_isConjunction :
    Apart { empty with name := some "ada" } { empty with warmth := some [2] } ∧
      (∃ both, (merge { empty with name := some "ada" } { empty with warmth := some [2] }).apply .empty
          .juneMorning [.known "Ada" "Byron" .hot] = .ok both ∧ both ≠ [] ∧
        ∀ r ∈ both, r.score = 120) ∧
      ∀ after, (merge { empty with name := some "ada" } { empty with warmth := some [2] }).apply .empty
          .juneMorning [.known "Ada" "Byron" .cold] = .ok after →
        (after.map SearchResult.contactId).Subperm [1] := by
  have apart : Apart { empty with name := some "ada" } { empty with warmth := some [2] } := by
    constructor <;> decide
  have conjunction := @apply_merge_isConjunction _ _ .empty .juneMorning apart (by decide)
  refine ⟨apart, ?_, ?_⟩
  · obtain ⟨both, run, kept, told⟩ := conjunction.1 (by decide +kernel) (.known "Ada" "Byron" .hot)
      [⟨1, 80, ["Name starts with \"ada\""], []⟩] [⟨1, 40, ["Warmth: Hot"], []⟩]
      (by decide +kernel) (by decide +kernel)
    refine ⟨both, run, kept.mpr ⟨by decide, by decide⟩, ?_⟩
    intro r member
    obtain ⟨a, first, b, second, joins⟩ := told r member
    rw [List.mem_singleton] at first second
    rw [joins.score, first, second]
    rfl
  · intro after run
    exact conjunction.2 _ [⟨1, 80, ["Name starts with \"ada\""], []⟩] after (by decide +kernel) run

end Kept

end Filters

end ContactSearch
