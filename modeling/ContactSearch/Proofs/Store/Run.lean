import ContactSearch.Store.Basic

/-!
# Steps of a store

A store is asked for the text under a key or told to set it, one step after another.
-/

namespace ContactSearch

namespace Store

/-- What a store is asked or told. -/
inductive Step where
  | get (key : String)
  | set (key value : String)
deriving Repr, DecidableEq

/-- Tells a store to set a text. -/
def Step.isSet : Step → Bool
  | get _ => false
  | set .. => true

/-- What a store answers: the text under a key if it is asked for one, and nothing otherwise. -/
abbrev Answer := Except StoreError (Option String)

/-- The answer to a step and the store after it. -/
def perform (s : Store) : Step → Answer × Store
  | .get key => (s.get key, s)
  | .set key value =>
    let (result, s) := s.set key value
    (result.map fun _ => none, s)

/-- Steps one after another, each with its answer, and the store after them. -/
def run : List Step → Store → List (Step × Answer) × Store
  | [], s => ([], s)
  | step :: steps, s =>
    let (answer, s) := s.perform step
    let (trace, s) := run steps s
    ((step, answer) :: trace, s)

theorem run_cons (step : Step) (steps : List Step) (s : Store) :
    run (step :: steps) s =
      ((step, (s.perform step).1) :: (run steps (s.perform step).2).1,
        (run steps (s.perform step).2).2) := rfl

theorem perform_get (key : String) (s : Store) : s.perform (.get key) = (s.get key, s) := rfl

/-- A store in memory does what it is told. -/
theorem perform_memory_set (key value : String) (entries : KeyedList String String) :
    (memory entries).perform (.set key value) = (.ok none, memory (entries.set key value)) := rfl

/-- A store in a file does what it is told, as long as its file can be replaced. -/
theorem perform_file_set {s updated : FileStore} {key value : String}
    (result : s.set key value = (.ok (), updated)) :
    (file s).perform (.set key value) = (.ok none, file updated) := by
  simp only [perform, set, result]
  rfl

end Store

end ContactSearch
