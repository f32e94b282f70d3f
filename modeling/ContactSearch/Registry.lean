import ContactSearch.Settings
import ContactSearch.Store.Basic
import ContactSearch.Wire.Source

/-!
# The registry of sources

The catalog, and the custom sources that users added. These are kept in a store as a JSON array
under one key. An array is read as a whole: if it holds anything that is no source, there are no
custom sources. Names in lower case are unique among all sources.

A reader with some room breaks down on what overflows it, in the file of the store or in the stored
text. It reads what a reader without bounds reads otherwise, but for names that are torn: no source
has such a name.
-/

namespace ContactSearch

open Wire

/-- A store with the key of the custom sources in it. -/
structure Registry where
  store : Store
  key : String
deriving Repr, DecidableEq

namespace Registry

/-- A registry over a store; without a key it uses the standard one. -/
def make (store : Store) (key : Option String) : Registry :=
  ⟨store, (key.filter fun k => !k.isEmpty).getD Settings.standard.customSourcesKey⟩

/-- The sources in a stored text, none if it is not an array of sources. -/
def sourcesIn (stored : String) : List Source :=
  match Json.read stored.toList with
  | .error _ => []
  | .ok v =>
    match (Schema.list Source.schema).read v with
    | .ok sources => sources
    | .error _ => []

/-- A source as it is stored: an absent description is left out. -/
def storedSource (s : Source) : Json :=
  .object <| [("name", .text s.name), ("category", .text s.category.name)] ++
    s.description.toList.map fun d => ("description", .text d)

/-- Sources as they are stored. -/
def storedText (sources : List Source) : String :=
  String.ofList (Json.write (.array (sources.map storedSource)))

/-- The custom sources in the order they were added. -/
def custom (r : Registry) : Except StoreError (List Source) := do
  return ((← r.store.get r.key).elim [] sourcesIn)

/-- The catalog followed by the custom sources. -/
def sources (r : Registry) : Except StoreError (List Source) := do
  return Source.catalog ++ (← r.custom)

theorem sources_of_custom {r : Registry} {added : List Source} (read : r.custom = .ok added) :
    r.sources = .ok (Source.catalog ++ added) := by
  rw [sources, read]
  rfl

/-- What keeps a registry from reading. -/
inductive ReadFault where
  | store (e : StoreError)
  | tooDeep (c : Json.Compound)
deriving Repr, DecidableEq

/-- The text stored under the key, if there is one. -/
def stored? (r : Registry) : Option String :=
  match r.store.get r.key with
  | .ok stored => stored
  | .error _ => none

/-- What a reader has no room for when the custom sources are read, in the store or in the text that
it gives. -/
def overflow? (room : Option Nat) (r : Registry) : Option Json.Compound :=
  (r.store.overflow? room).or (r.stored?.bind fun stored => Json.overflow? room stored.toList)

/-- What is read of the store, or of the text that it gives, is torn. -/
def isTorn (r : Registry) : Bool :=
  r.store.isTorn || r.stored?.any fun stored => Json.isTorn stored.toList

/-- The name of some source is torn, where what was read is. -/
def hasTornName (r : Registry) (custom : List Source) : Bool :=
  r.isTorn && custom.any Source.namesStandIn

/-- The custom sources for a reader with some room. -/
def customWithin (room : Option Nat) (r : Registry) : Except ReadFault (List Source) := do
  match r.overflow? room with
  | some c => throw (.tooDeep c)
  | none =>
    let custom ← r.custom.mapError .store
    return if r.hasTornName custom then [] else custom

/-- The catalog followed by the custom sources, for a reader with some room. -/
def sourcesWithin (room : Option Nat) (r : Registry) : Except ReadFault (List Source) := do
  return Source.catalog ++ (← r.customWithin room)

/-- Adds a source, unless there is one of its name already; tells whether it was added, and what
the registry is then. -/
def add (s : Source) (r : Registry) : Except StoreError Bool × Registry :=
  match r.custom with
  | .error e => (.error e, r)
  | .ok existing =>
    if (existing ++ Source.catalog).any (Source.sameName s) then (.ok false, r)
    else
      let (result, store) := r.store.set r.key (storedText (existing ++ [s]))
      (result.map fun _ => true, { r with store })

end Registry

end ContactSearch
