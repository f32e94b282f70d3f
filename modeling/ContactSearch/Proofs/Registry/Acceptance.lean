import ContactSearch.Proofs.Registry.Run
import ContactSearch.Proofs.Store.Usable

/-!
# The sources that a registry accepts

Whatever is done with the store under other keys, a registry that starts with nothing lists the
sources it accepted, in that order and as they were given, after those of the catalog. No two
sources that it lists have the same name in lower case, and a source is accepted exactly when its
name is new among them.
-/

namespace ContactSearch

open Registry

namespace Source

/-- No two sources have the same name in lower case. -/
def AreDistinct (sources : List Source) : Prop :=
  sources.Pairwise fun a b => a.name.lowered ≠ b.name.lowered

/-- No source of the list has the name of this one in lower case. -/
def IsNewTo (s : Source) (sources : List Source) : Prop :=
  ∀ listed ∈ sources, listed.name.lowered ≠ s.name.lowered

theorem areDistinct_catalog : AreDistinct catalog := by
  unfold AreDistinct
  decide

theorem areDistinct_append_singleton {sources : List Source} {s : Source} :
    AreDistinct (sources ++ [s]) ↔ AreDistinct sources ∧ s.IsNewTo sources := by
  simp [AreDistinct, IsNewTo, List.pairwise_append]

/-- The registry looks for the name of a source among those it lists. -/
theorem any_sameName_iff {s : Source} {sources : List Source} :
    sources.any (sameName s) = true ↔ ¬ s.IsNewTo sources := by
  rw [List.any_eq_true, IsNewTo]
  simp only [sameName, beq_iff_eq, not_forall, not_not]
  exact exists_congr fun listed => (exists_prop.trans (and_congr_right fun _ => eq_comm)).symm

end Source

namespace Registry

/-- The store of a registry holds these sources under its key: what was written for them or, if
there are none, possibly nothing. -/
structure Keeps (r : Registry) (sources : List Source) : Prop where
  usable : r.store.IsUsable
  stored : r.store.get r.key = .ok (some (storedText sources)) ∨
    (sources = [] ∧ r.store.get r.key = .ok none)
  named : ∀ s ∈ sources, s.IsNamed
  distinct : Source.AreDistinct (Source.catalog ++ sources)

variable {r : Registry} {kept : List Source}

/-- A registry whose store holds nothing under its key keeps no sources. -/
theorem keeps_nil (usable : r.store.IsUsable) (nothing : r.store.get r.key = .ok none) :
    r.Keeps [] where
  usable := usable
  stored := .inr ⟨rfl, nothing⟩
  named := by simp
  distinct := by simpa using Source.areDistinct_catalog

theorem Keeps.custom (keeps : r.Keeps kept) : r.custom = .ok kept := by
  rcases keeps.stored with text | ⟨rfl, nothing⟩
  · exact custom_of_storedText keeps.named text
  · rw [Registry.custom, nothing]
    rfl

theorem Keeps.sources (keeps : r.Keeps kept) : r.sources = .ok (Source.catalog ++ kept) :=
  sources_of_custom keeps.custom

/-- What is kept depends on nothing in the store but the text under the key. -/
theorem Keeps.of_store {store : Store} (keeps : r.Keeps kept) (usable : store.IsUsable)
    (same : store.get r.key = r.store.get r.key) : ({ r with store } : Registry).Keeps kept where
  usable := usable
  stored := by
    rw [same]
    exact keeps.stored
  named := keeps.named
  distinct := keeps.distinct

/-! ## Adding a source -/

/-- A source of a new name is written after those that were read. -/
theorem add_of_isNewTo {existing : List Source} {s : Source} (usable : r.store.IsUsable)
    (read : r.custom = .ok existing) (new : s.IsNewTo (Source.catalog ++ existing)) :
    ∃ store : Store, r.add s = (.ok true, { r with store }) ∧ store.IsUsable ∧
      store.get r.key = .ok (some (storedText (existing ++ [s]))) := by
  obtain ⟨store, result, usable', text, -⟩ :=
    Store.set_of_isUsable usable r.key (storedText (existing ++ [s]))
  have absent : ¬ (existing ++ Source.catalog).any (Source.sameName s) = true := by
    rw [Source.any_sameName_iff, not_not]
    intro listed member
    rw [List.mem_append] at member
    exact new listed (List.mem_append.mpr member.symm)
  refine ⟨store, ?_, usable', text⟩
  rw [add, read]
  simp only [if_neg absent, result]
  rfl

/-- A source whose name is taken is refused, and nothing changes. -/
theorem add_of_not_isNewTo {existing : List Source} {s : Source} (read : r.custom = .ok existing)
    (taken : ¬ s.IsNewTo (Source.catalog ++ existing)) : r.add s = (.ok false, r) := by
  have present : (existing ++ Source.catalog).any (Source.sameName s) = true := by
    rw [Source.any_sameName_iff]
    intro new
    refine taken fun listed member => new listed ?_
    rw [List.mem_append] at member ⊢
    exact member.symm
  rw [add, read]
  simp only [if_pos present]

/-- A source of a new name is accepted, and kept after the others. -/
theorem Keeps.add_new {s : Source} (keeps : r.Keeps kept) (named : s.IsNamed)
    (new : s.IsNewTo (Source.catalog ++ kept)) :
    ∃ updated, r.add s = (.ok true, updated) ∧ updated.key = r.key ∧
      updated.Keeps (kept ++ [s]) := by
  obtain ⟨store, result, usable, text⟩ := add_of_isNewTo keeps.usable keeps.custom new
  refine ⟨_, result, rfl, usable, .inl text, ?_, ?_⟩
  · exact List.forall_mem_append.mpr ⟨keeps.named, List.forall_mem_singleton.mpr named⟩
  · rw [← List.append_assoc]
    exact Source.areDistinct_append_singleton.mpr ⟨keeps.distinct, new⟩

theorem Keeps.add_taken {s : Source} (keeps : r.Keeps kept)
    (taken : ¬ s.IsNewTo (Source.catalog ++ kept)) : r.add s = (.ok false, r) :=
  add_of_not_isNewTo keeps.custom taken

/-- Adding a source changes nothing in a store but the text under the key of the registry. -/
theorem add_elsewhere (usable : r.store.IsUsable) (s : Source) :
    (r.add s).2.store.IsUsable ∧
      ∀ other, other ≠ r.key → (r.add s).2.store.get other = r.store.get other := by
  unfold add
  cases r.custom with
  | error e => exact ⟨usable, fun _ _ => rfl⟩
  | ok existing =>
    by_cases taken : (existing ++ Source.catalog).any (Source.sameName s) = true
    · simp only [if_pos taken]
      exact ⟨usable, fun _ _ => trivial⟩
    · obtain ⟨store, result, usable', -, others⟩ :=
        Store.set_of_isUsable usable r.key (storedText (existing ++ [s]))
      simp only [if_neg taken, result]
      exact ⟨usable', others⟩

/-! ## Runs -/

/-- After a step the registry keeps what it kept before and the source that was accepted. -/
theorem Keeps.perform (keeps : r.Keeps kept) {step : Step} (apart : step.IsApart r.key) :
    (r.perform step).2.key = r.key ∧
      (r.perform step).2.Keeps (kept ++ (accepted? (step, (r.perform step).1)).toList) := by
  cases step with
  | add s =>
    by_cases new : s.IsNewTo (Source.catalog ++ kept)
    · obtain ⟨updated, result, key, keeps'⟩ := keeps.add_new apart new
      rw [perform_add result]
      exact ⟨key, keeps'⟩
    · rw [perform_add (keeps.add_taken new)]
      exact ⟨rfl, by simpa [accepted?] using keeps⟩
  | put key value =>
    obtain ⟨store, result, usable, -, others⟩ := Store.set_of_isUsable keeps.usable key value
    rw [perform_put result]
    exact ⟨rfl, by simpa [accepted?] using keeps.of_store usable (others r.key apart.symm)⟩
  | addUnder key s =>
    have elsewhere : (⟨r.store, key⟩ : Registry).store.IsUsable := keeps.usable
    obtain ⟨usable, others⟩ := add_elsewhere elsewhere s
    have keeps' := keeps.of_store usable (others r.key apart.symm)
    refine ⟨rfl, ?_⟩
    show Keeps _ (kept ++ [])
    rwa [List.append_nil]
  | _ =>
    -- whatever else is asked changes nothing and adds nothing
    refine ⟨rfl, ?_⟩
    show Keeps _ (kept ++ [])
    rwa [List.append_nil]

theorem Keeps.run (keeps : r.Keeps kept) {steps : List Step}
    (apart : ∀ step ∈ steps, step.IsApart r.key) :
    (run steps r).2.key = r.key ∧ (run steps r).2.Keeps (kept ++ accepted (run steps r).1) := by
  induction steps generalizing r kept with
  | nil => exact ⟨rfl, by simpa [Registry.run, accepted] using keeps⟩
  | cons step steps ih =>
    obtain ⟨key, keeps'⟩ := keeps.perform (apart step List.mem_cons_self)
    obtain ⟨key', keeps''⟩ := ih keeps' fun later listed =>
      key ▸ apart later (List.mem_cons_of_mem _ listed)
    rw [run_cons, accepted_cons, ← List.append_assoc]
    exact ⟨key'.trans key, keeps''⟩

/-- What a registry answers that accepted these sources. -/
structure Lists (r : Registry) (accepted : List Source) : Prop where
  custom : r.custom = .ok accepted
  sources : r.sources = .ok (Source.catalog ++ accepted)
  distinct : Source.AreDistinct (Source.catalog ++ accepted)
  /-- A source of a new name will be accepted. -/
  accepts : ∀ s, s.IsNamed →
    ((r.add s).1 = .ok true ↔ s.IsNewTo (Source.catalog ++ accepted))
  /-- A source whose name is taken will be refused, which leaves everything as it is. -/
  refuses : ∀ s, s.IsNamed → ¬ s.IsNewTo (Source.catalog ++ accepted) →
    r.add s = (.ok false, r)

theorem Keeps.lists (keeps : r.Keeps kept) : r.Lists kept where
  custom := keeps.custom
  sources := keeps.sources
  distinct := keeps.distinct
  accepts := by
    intro s named
    constructor
    · intro result
      by_contra taken
      rw [keeps.add_taken taken] at result
      cases result
    · intro new
      obtain ⟨updated, result, -⟩ := keeps.add_new named new
      rw [result]
  refuses := fun s _ taken => keeps.add_taken taken

/-- What the store of a registry holds under its key was written by a registry that found nothing
there and went on to accept these sources. -/
structure Holds (r : Registry) (earlier : List Source) : Prop where
  usable : r.store.IsUsable
  written : ∃ (origin : Registry) (steps : List Step), origin.key = r.key ∧
    origin.store.IsUsable ∧ origin.store.get r.key = .ok none ∧
    (∀ step ∈ steps, step.IsApart r.key) ∧ accepted (run steps origin).1 = earlier ∧
    (run steps origin).2.store.get r.key = r.store.get r.key

/-- A store that holds nothing under the key will do. -/
theorem holds_nil (usable : r.store.IsUsable) (nothing : r.store.get r.key = .ok none) :
    r.Holds [] :=
  ⟨usable, r, [], rfl, usable, nothing, by simp, rfl, rfl⟩

theorem Holds.keeps {earlier : List Source} (holds : r.Holds earlier) : r.Keeps earlier := by
  obtain ⟨origin, steps, key, usable, nothing, apart, rfl, same⟩ := holds.written
  rw [← key] at nothing apart
  obtain ⟨key', keeps⟩ := (keeps_nil usable nothing).run apart
  have keeps' := keeps.of_store holds.usable (by rw [key', key, same])
  rw [List.nil_append, key', key] at keeps'
  exact keeps'

/-- A registry over a store whose file is not there yet. -/
def vacantRegistry : Registry :=
  .make (.file ⟨"kv.json", .vacant⟩) none

/-- Two sources of one name, a source of the catalog, and uses of other keys in between. -/
def mixedSteps : List Step :=
  [.add ⟨"Podcast", .digital, some ""⟩, .addUnder "team" ⟨"Podcast", .other, none⟩,
    .add ⟨"LINKEDIN", .event, none⟩, .custom, .put "theme" "dark",
    .add ⟨"podcast", .event, none⟩, .parse "from Podcast" []]

end Registry

end ContactSearch
