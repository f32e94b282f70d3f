import ContactSearch.Proofs.Registry.Stored
import ContactSearch.Query.Parsed

/-!
# Steps of a registry

Sources are added to a registry and asked for, one step after another. In between, its store may
be used for other things: texts are set under other keys, and other registries keep their sources
under keys of their own.
-/

namespace ContactSearch.Registry

/-- What a registry, or another user of its store, is asked or told. -/
inductive Step where
  | add (s : Source)
  | custom
  | sources
  | parse (query : String) (orgs : List String)
  /-- Sets a text in the store. -/
  | put (key value : String)
  /-- Adds a source by way of the registry that has this key in the same store. -/
  | addUnder (key : String) (s : Source)
deriving Repr, DecidableEq

/-- What a step is answered. -/
inductive Answer where
  | added (new : Bool)
  | sources (listed : List Source)
  | parsed (query : ParsedQuery)
  | done
deriving Repr, DecidableEq

/-- The answer to a step and the registry after it. -/
def perform (r : Registry) : Step → Except StoreError Answer × Registry
  | .add s =>
    let (result, r) := r.add s
    (result.map .added, r)
  | .custom => (r.custom.map .sources, r)
  | .sources => (r.sources.map .sources, r)
  | .parse query orgs =>
    (r.sources.map fun sources => .parsed (Query.parse query orgs sources), r)
  | .put key value =>
    let (result, store) := r.store.set key value
    (result.map fun _ => .done, { r with store })
  | .addUnder key s =>
    let (result, other) := Registry.add s ⟨r.store, key⟩
    (result.map .added, { r with store := other.store })

/-- Steps one after another, each with its answer, and the registry after them. -/
def run : List Step → Registry → List (Step × Except StoreError Answer) × Registry
  | [], r => ([], r)
  | step :: steps, r =>
    let (answer, r) := r.perform step
    let (trace, r) := run steps r
    ((step, answer) :: trace, r)

/-- The source that a step added, if it was answered that it did. -/
def accepted? : Step × Except StoreError Answer → Option Source
  | (.add s, .ok (.added true)) => some s
  | _ => none

/-- The sources that were added in the course of some steps, in that order. -/
def accepted (trace : List (Step × Except StoreError Answer)) : List Source :=
  trace.filterMap accepted?

/-- Adds no source without a name, and leaves alone what the store holds under a key. -/
def Step.IsApart (key : String) : Step → Prop
  | add s => s.IsNamed
  | put other _ => other ≠ key
  | addUnder other _ => other ≠ key
  | _ => True

theorem run_cons (step : Step) (steps : List Step) (r : Registry) :
    run (step :: steps) r =
      ((step, (r.perform step).1) :: (run steps (r.perform step).2).1,
        (run steps (r.perform step).2).2) := rfl

theorem perform_add {r updated : Registry} {s : Source} {new : Bool}
    (result : r.add s = (.ok new, updated)) :
    r.perform (.add s) = (.ok (.added new), updated) := by
  rw [perform, result]
  rfl

theorem perform_put {r : Registry} {store : Store} {key value : String}
    (result : r.store.set key value = (.ok (), store)) :
    r.perform (.put key value) = (.ok .done, { r with store }) := by
  rw [perform, result]
  rfl

theorem accepted_cons (step : Step × Except StoreError Answer)
    (trace : List (Step × Except StoreError Answer)) :
    accepted (step :: trace) = (accepted? step).toList ++ accepted trace := by
  cases found : accepted? step <;> simp [accepted, found]

end ContactSearch.Registry
