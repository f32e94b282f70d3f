import ContactSearch.Deal.Basic
import ContactSearch.Proofs.Filter.SharedScores
import ContactSearch.Proofs.KeyedList
import ContactSearch.Text.Find

/-!
# Sectors looked up in a listing

A listing of organizations is made into a map from ids to sectors, and the filter on sectors looks
the organization of a contact up in it. With distinct ids the map holds every listed organization
with its sector, so the look-up finds all of them; but the id zero is never looked up.
-/

namespace ContactSearch

open Calendar Text

/-! ## The map of a listing -/

namespace Organization

/-- A listing has the organization of a contact in a sector that contains a text, ignoring case. -/
def IsInSector (orgs : List Organization) (text : String) (c : Contact) : Prop :=
  ∃ o ∈ orgs, c.orgId = some o.id ∧ ∃ sector ∈ o.sector, text.lowered <:+: sector.lowered

instance (orgs : List Organization) (text : String) : DecidablePred (IsInSector orgs text) :=
  fun c => inferInstanceAs (Decidable (∃ o ∈ orgs, c.orgId = some o.id ∧
    ∃ sector ∈ o.sector, text.lowered <:+: sector.lowered))

variable {orgs : List Organization}

theorem sectorMap_eq (distinct : (orgs.map Organization.id).Nodup) :
    sectorMap orgs = orgs.map fun o => (o.id, ⟨o.sector, none⟩) := by
  refine KeyedList.ofPairs_of_nodup ?_
  rwa [KeyedList.keys, List.map_map]

/-- Each listed organization is found under its id, and nothing else is. -/
theorem get?_sectorMap_iff (distinct : (orgs.map Organization.id).Nodup) {id : Int} {s : Sectors} :
    (sectorMap orgs).get? id = some s ↔ ∃ o ∈ orgs, o.id = id ∧ s = ⟨o.sector, none⟩ := by
  have keys : (sectorMap orgs).keys.Nodup := KeyedList.nodup_keys_ofPairs _
  rw [KeyedList.get?_eq_some_iff keys, sectorMap_eq distinct, List.mem_map]
  simp only [Prod.mk.injEq, eq_comm]

end Organization

/-! ## The look-up -/

namespace Filters

open Organization

variable {orgs : List Organization} {text : String} {c : Contact}

theorem sectorsOf?_eq_some_iff {map : SectorMap} {s : Sectors} :
    sectorsOf? map c = some s ↔ ∃ id, c.orgId = some id ∧ id ≠ 0 ∧ map.get? id = some s := by
  unfold sectorsOf?
  cases c.orgId with
  | none => simp
  | some id => by_cases zero : id = 0 <;> simp [zero]

/-- A text that is not empty occurs in a sector where it is contained in it. -/
theorem occursIn_some_iff (given : text ≠ "") {sector : String} :
    Match.occursIn text.lowered (some sector) = true ↔ text.lowered <:+: sector.lowered := by
  have some : text.lowered ≠ [] := by
    intro none
    rw [String.lowered, lower_eq_nil_iff] at none
    exact given (String.toList_eq_nil_iff.mp none)
  constructor
  · intro occurs
    obtain ⟨_, same, inside⟩ := Match.exists_of_occursIn occurs
    cases same
    exact inside
  · exact Match.occursIn_of_infix some

theorem getD_nonEmpty? (s : String) : (nonEmpty? (some s)).getD "" = s := by
  by_cases empty : s = "" <;> simp [nonEmpty?, Option.filter, empty]

/-- Where no sub-sector is told, the sector decides. -/
theorem inSector?_of_looked (given : text ≠ "") {map : SectorMap} {told : Option String} {m : Match}
    (looked : sectorsOf? map c = some ⟨told, none⟩) : inSector? map text c = some m ↔
      ∃ sector, told = some sector ∧ text.lowered <:+: sector.lowered ∧
        m = ⟨70, "Org sector: " ++ sector⟩ := by
  have never : Match.occursIn text.lowered none = false := rfl
  rw [inSector?, looked]
  cases told with
  | none => simp [never]
  | some sector =>
    dsimp only
    rw [never, Bool.or_false, Option.or_none, getD_nonEmpty?]
    by_cases inside : text.lowered <:+: sector.lowered
    · rw [if_pos ((occursIn_some_iff given).mpr inside)]
      simp [inside, eq_comm]
    · rw [if_neg fun occurs => inside ((occursIn_some_iff given).mp occurs)]
      simp [inside]

/-- A contact is found in a sector where the listing has its organization in one that contains the
text, unless the id of the organization is zero. -/
theorem inSector?_sectorMap_iff (distinct : (orgs.map Organization.id).Nodup) (given : text ≠ "")
    {m : Match} : inSector? (sectorMap orgs) text c = some m ↔
      c.orgId ≠ some 0 ∧ ∃ o ∈ orgs, c.orgId = some o.id ∧ ∃ sector ∈ o.sector,
        text.lowered <:+: sector.lowered ∧ m = ⟨70, "Org sector: " ++ sector⟩ := by
  constructor
  · intro found
    cases looked : sectorsOf? (sectorMap orgs) c with
    | none =>
      rw [inSector?, looked] at found
      cases found
    | some s =>
      obtain ⟨id, known, nonzero, listed⟩ := sectorsOf?_eq_some_iff.mp looked
      obtain ⟨o, member, rfl, rfl⟩ := (get?_sectorMap_iff distinct).mp listed
      obtain ⟨sector, told, inside, same⟩ := (inSector?_of_looked given looked).mp found
      exact ⟨by simpa [known] using nonzero, o, member, known, sector, told, inside, same⟩
  · rintro ⟨nonzero, o, member, known, sector, told, inside, same⟩
    have looked : sectorsOf? (sectorMap orgs) c = some ⟨o.sector, none⟩ :=
      sectorsOf?_eq_some_iff.mpr ⟨o.id, known, by simpa [known] using nonzero,
        (get?_sectorMap_iff distinct).mpr ⟨o, member, rfl, rfl⟩⟩
    exact (inSector?_of_looked given looked).mpr ⟨sector, told, inside, same⟩

theorem isSome_inSector?_sectorMap (distinct : (orgs.map Organization.id).Nodup)
    (given : text ≠ "") : (inSector? (sectorMap orgs) text c).isSome = true ↔
      IsInSector orgs text c ∧ c.orgId ≠ some 0 := by
  rw [Option.isSome_iff_exists]
  simp only [inSector?_sectorMap_iff distinct given]
  constructor
  · rintro ⟨m, nonzero, o, member, known, sector, told, inside, -⟩
    exact ⟨⟨o, member, known, sector, told, inside⟩, nonzero⟩
  · rintro ⟨⟨o, member, known, sector, told, inside⟩, nonzero⟩
    exact ⟨_, nonzero, o, member, known, sector, told, inside, rfl⟩

/-! ## The filter on sectors alone -/

/-- Filters that ask for a sector and nothing else. -/
def inSector (text : String) : Filters :=
  { empty with orgSector := some text }

end Filters

/-- The sectors of a listing beside the filters, and nothing else. -/
def FilterContext.ofListing (orgs : List Organization) : FilterContext :=
  { empty with sectors := some (Organization.sectorMap orgs) }

namespace Filters

open Organization

variable {orgs : List Organization} {text : String}

theorem activeCount_inSector (given : text ≠ "") :
    (inSector text).activeCount (.ofListing orgs) = 1 := by
  simp [activeCount, inSector, empty, limitsRecency, namesDeals, isGiven_some given,
    FilterContext.ofListing, FilterContext.empty]

/-- Only the check of sectors takes part. -/
theorem outcomesWith_inSector (given : text ≠ "") (c : Contact) :
    (inSector text).outcomesWith (.ofListing orgs) c .inactive =
      List.replicate 10 .inactive ++
        [.ofMatch? (inSector? (sectorMap orgs) text c), .inactive] := by
  simp only [outcomesWith, inSector, empty, checkSector, FilterContext.ofListing,
    FilterContext.empty, checkText_some given]
  rfl

theorem allMatched_inSector (given : text ≠ "") (c : Contact) :
    Outcome.allMatched ((inSector text).outcomesWith (.ofListing orgs) c .inactive) =
      (inSector? (sectorMap orgs) text c).isSome := by
  rw [outcomesWith_inSector given]
  cases inSector? (sectorMap orgs) text c <;> rfl

/-- A result that tells a sector in which a listing has the organization of a contact. -/
def TellsSector (orgs : List Organization) (text : String) (c : Contact) (r : SearchResult) : Prop :=
  ∃ o ∈ orgs, c.orgId = some o.id ∧ ∃ sector ∈ o.sector, text.lowered <:+: sector.lowered ∧
    r = ⟨c.id, 70, ["Org sector: " ++ sector], []⟩

theorem TellsSector.score {c : Contact} {r : SearchResult} (tells : TellsSector orgs text c r) :
    r.score = 70 := by
  obtain ⟨-, -, -, -, -, -, rfl⟩ := tells
  rfl

theorem tellsSector_ofMatches (distinct : (orgs.map Organization.id).Nodup) (given : text ≠ "")
    {c : Contact} (listed : IsInSector orgs text c ∧ c.orgId ≠ some 0) :
    TellsSector orgs text c (SearchResult.ofMatches c.id (((inSector text).outcomesWith
      (.ofListing orgs) c .inactive).filterMap Outcome.match?) (FilterContext.ofListing orgs).intents) := by
  obtain ⟨m, found⟩ :=
    Option.isSome_iff_exists.mp ((isSome_inSector?_sectorMap distinct given).mpr listed)
  obtain ⟨-, o, among, known, sector, told, inside, rfl⟩ :=
    (inSector?_sectorMap_iff distinct given).mp found
  refine ⟨o, among, known, sector, told, inside, ?_⟩
  rw [outcomesWith_inSector given, found]
  rfl

/-- The filter on sectors alone, with the sectors of a listing of distinct ids, finds every contact
whose organization is listed in a sector that contains the text, and no other, with the score 70 and
in the order given. One contact is missed: that of an organization with the id zero, which is listed
like any other and never looked up. -/
theorem apply_inSector_finds (distinct : (orgs.map Organization.id).Nodup) (given : text ≠ "")
    (now : Timestamp) (contacts : List Contact) : ∃ results,
      (inSector text).apply (.ofListing orgs) now contacts = .ok results ∧
      List.Forall₂ (TellsSector orgs text)
        (contacts.filter fun c => IsInSector orgs text c ∧ c.orgId ≠ some 0) results := by
  have active : (inSector text).activeCount (.ofListing orgs) ≠ 0 := by
    rw [activeCount_inSector given]
    decide
  have kept : ∀ c, Outcome.allMatched ((inSector text).outcomesWith (.ofListing orgs) c .inactive) =
      decide (IsInSector orgs text c ∧ c.orgId ≠ some 0) := by
    intro c
    rw [allMatched_inSector given, Bool.eq_iff_iff, isSome_inSector?_sectorMap distinct given,
      decide_eq_true_iff]
  have run := apply_eq_ranked (f := inSector text)
    (fun c => (inSector text).outcomesWith (.ofListing orgs) c .inactive) active
    fun c (_ : c ∈ contacts) => outcomes_of_timeless rfl (.ofListing orgs) now c
  simp only [kept] at run
  have listed : ∀ c ∈ contacts.filter fun c => IsInSector orgs text c ∧ c.orgId ≠ some 0,
      IsInSector orgs text c ∧ c.orgId ≠ some 0 :=
    fun c member => of_decide_eq_true (List.mem_filter.mp member).2
  refine ⟨_, run, ?_⟩
  -- All results have one score, so ranking them changes nothing.
  rw [SearchResult.ranked_of_score_eq (List.forall_mem_map.mpr fun c member =>
    (tellsSector_ofMatches distinct given (listed c member)).score), List.forall₂_map_right_iff,
    List.forall₂_same]
  exact fun c member => tellsSector_ofMatches distinct given (listed c member)

/-- Two organizations in the health sector, one with the id seven and one with the id zero. -/
def healthListing : List Organization :=
  [⟨7, "Acme", "company", some "Healthcare IT"⟩, ⟨0, "Umbra", "company", some "Public Health"⟩]

/-- A contact at the organization of an id. -/
def atOrg (id : Int) : Contact :=
  { Contact.known "Ada" "Byron" .hot with orgId := some id }

theorem atAcme_isFound : (healthListing.map Organization.id).Nodup ∧ "HEALTH" ≠ "" ∧
    ∃ o ∈ healthListing, o.id = 7 ∧ ∃ sector ∈ o.sector,
      (inSector "HEALTH").apply (.ofListing healthListing) .juneMorning [atOrg 7] =
        .ok [⟨1, 70, ["Org sector: " ++ sector], []⟩] := by
  have distinct : (healthListing.map Organization.id).Nodup := by decide
  have given : "HEALTH" ≠ "" := by decide
  have listed : ([atOrg 7].filter fun c =>
      IsInSector healthListing "HEALTH" c ∧ c.orgId ≠ some 0) = [atOrg 7] := by
    decide +kernel
  obtain ⟨results, run, each⟩ := apply_inSector_finds distinct given .juneMorning [atOrg 7]
  rw [listed] at each
  cases each with
  | cons found rest =>
    obtain ⟨o, among, known, sector, told, -, rfl⟩ := found
    cases rest
    exact ⟨distinct, given, o, among, (Option.some.inj known).symm, sector, told, run⟩

/-- The contact at the organization with the id zero is not found, though it is listed. -/
theorem atUmbra_isMissed : (healthListing.map Organization.id).Nodup ∧ "HEALTH" ≠ "" ∧
    IsInSector healthListing "HEALTH" (atOrg 0) ∧
    (inSector "HEALTH").apply (.ofListing healthListing) .juneMorning [atOrg 0] = .ok [] :=
  ⟨by decide, by decide, by decide +kernel, by decide +kernel⟩

end Filters

end ContactSearch
