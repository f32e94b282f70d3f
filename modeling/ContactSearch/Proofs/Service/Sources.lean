import ContactSearch.Proofs.Registry.Reading
import ContactSearch.Proofs.Service.Request

/-!
# Listings of sources

A request for the sources is answered with the catalog and, behind it, with what the registry reads,
whatever may stand in its store. The exceptions are a store that is nested too deeply to be read, which
breaks the registry and the service, and a torn text that would have to be told.
-/

namespace ContactSearch

open Wire

theorem Route.find_listSources (body : Text.Octets) :
    find ⟨"GET", "/v1/sources", body⟩ = .ok listSources := by
  have path : bare "/v1/sources" = "/v1/sources" := by decide
  simp [find, path, table, List.lookup_cons]

namespace Service

variable {o : Occasion} {r : Registry} {room : Option Nat}

/-- The answer that lists sources. -/
def listing (sources : List Source) : Response :=
  ⟨200, .object [("added", .null), ("sources", .array (sources.map Source.schema.write))]⟩

theorem handle_listSources (o : Occasion) (body : Text.Octets) :
    handleWithin room o r ⟨"GET", "/v1/sources", body⟩ =
      (settle o r.isTorn (listSources room none r), r) := by
  rw [handleWithin, Route.find_listSources]
  rfl

theorem listSources_of_customWithin {custom : List Source}
    (read : r.customWithin room = .ok custom) :
    listSources room none r = .ok (listing (Source.catalog ++ custom)) := by
  rw [listSources, Registry.sourcesWithin_of_customWithin read]
  rfl

theorem listSources_of_overflow {c : Json.Compound} (overflows : r.overflow? room = some c) :
    listSources room none r = .error (.tooDeep c) := by
  rw [listSources, Registry.sourcesWithin_of_overflow overflows]
  rfl

/-- How a registry is read with some room, and how a request for the sources is answered, where these
custom sources would be read without bounds. -/
structure IsListed (room : Option Nat) (r : Registry) (custom : List Source) : Prop where
  /-- What is read is an array of sources as a whole, or nothing at all. -/
  reads : r.custom = .ok custom ∧ r.Reads custom
  found : r.overflow? room = none → ∃ given, r.Gives custom given ∧
    r.customWithin room = .ok given ∧ r.sourcesWithin room = .ok (Source.catalog ++ given) ∧
    ∀ o body, (listing (Source.catalog ++ given)).Tells o r.isTorn
        (handleWithin room o r ⟨"GET", "/v1/sources", body⟩).1 ∧
      (handleWithin room o r ⟨"GET", "/v1/sources", body⟩).2 = r
  /-- The registry cannot be read, and the service breaks. -/
  tooDeep : ∀ c, r.overflow? room = some c → r.customWithin room = .error (.tooDeep c) ∧
    ∀ o body, handleWithin room o r ⟨"GET", "/v1/sources", body⟩ =
      (.broken o.debug (.tooDeep c), r)

/-- Whatever a store holds, unless it overflows the room of its reader, a registry over it reads an
array of sources as a whole or nothing at all, and a request for the sources is answered with the
catalog and these. -/
theorem handle_listSources_isAnswered (implemented : r.store ≠ .unimplemented)
    (room : Option Nat) : Source.catalog.length = 16 ∧ ∃ custom, IsListed room r custom := by
  obtain ⟨custom, read, reads⟩ := Registry.exists_custom implemented
  refine ⟨rfl, custom, ⟨read, reads⟩, ?found, ?tooDeep⟩
  case found =>
    intro within
    obtain ⟨given, gives, readable⟩ := Registry.exists_customWithin within read
    refine ⟨given, gives, readable, Registry.sourcesWithin_of_customWithin readable,
      fun o body => ?_⟩
    rw [handle_listSources, listSources_of_customWithin readable]
    exact ⟨tells_settle _ _ _, rfl⟩
  case tooDeep =>
    intro c overflows
    refine ⟨Registry.customWithin_of_overflow overflows, fun o body => ?_⟩
    rw [handle_listSources, listSources_of_overflow overflows]
    rfl

theorem mixedRegistry_isAnswered : Registry.mixedRegistry.store ≠ .unimplemented ∧
    Registry.mixedRegistry.overflow? Json.usualRoom = none ∧
    ∀ o body, handle o Registry.mixedRegistry ⟨"GET", "/v1/sources", body⟩ =
      (listing Source.catalog, Registry.mixedRegistry) := by
  have implemented : Registry.mixedRegistry.store ≠ .unimplemented :=
    Registry.holdsArray_mixedRegistry.isUsable.ne_unimplemented
  obtain ⟨-, custom, listed⟩ := handle_listSources_isAnswered implemented Json.usualRoom
  obtain rfl : custom = [] :=
    Except.ok.inj (listed.reads.1.symm.trans Registry.custom_mixedRegistry)
  have within := Registry.overflow?_mixedRegistry
  have whole : Registry.mixedRegistry.isTorn = false := by decide
  obtain ⟨given, gives, -, -, answered⟩ := listed.found within
  obtain rfl := (Registry.gives_iff_of_legible Registry.hasTornName_nil).mp gives
  refine ⟨implemented, within, fun o body => ?_⟩
  obtain ⟨told, same⟩ := answered o body
  rw [whole] at told
  exact Prod.ext (told.whole (canBeTold_of_whole _)) same

/-- A file of nested arrays breaks the registry and the service. -/
theorem nestedRegistry_breaks :
    Registry.nestedRegistry.customWithin Json.usualRoom = .error (.tooDeep .array) ∧
      ∀ o body, (handle o Registry.nestedRegistry ⟨"GET", "/v1/sources", body⟩).1.status = 500 := by
  have overflows := Registry.overflow?_nestedRegistry
  refine ⟨Registry.customWithin_of_overflow overflows, fun o body => ?_⟩
  rw [handle, handle_listSources, listSources_of_overflow overflows]
  rfl

end Service

end ContactSearch
