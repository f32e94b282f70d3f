import ContactSearch.Proofs.Store.Refinement

/-!
# Setting a text is all or nothing

A store in a file is told to set a text where its path may be blocked: a file has the name of the
folder, or a folder has the name of the file. Setting is refused exactly there, and then nothing
that can be seen of the store has changed. Elsewhere the text is set, and the folder has at most the
file of the store more than before. So after every step of every run, no temporary file is left.
-/

namespace ContactSearch

open Text

namespace FileStore

/-- Two states of a store look alike: its file, the names in its folder, and what it answers. -/
structure LooksLike (a b : FileStore) : Prop where
  file : a.file? = b.file?
  listing : a.place.names? = b.place.names?
  answers : ∀ key, a.get key = b.get key

theorem LooksLike.refl (s : FileStore) : LooksLike s s :=
  ⟨rfl, rfl, fun _ => rfl⟩

/-- The names in the folder of a store; none where there is no folder. -/
def listed (s : FileStore) : List String :=
  s.place.names?.getD []

/-- What the folder of a store holds under a name. -/
def entry? (s : FileStore) (name : String) : Option Entry :=
  match s.place with
  | .folder entries => entries.get? name
  | _ => none

/-- Every name in the folder is an old one or the store's own: there is no temporary file. -/
def HasNoTemporary (start s : FileStore) : Prop :=
  ∀ name ∈ s.listed, name ∈ start.listed ∨ name = start.name

/-- What one step does to a store: all that it is told or nothing. -/
structure IsAllOrNothing (before : FileStore) (step : Store.Step) (answer : Store.Answer)
    (after : FileStore) : Prop where
  /-- Refused is the setting of a text where the path is blocked, and nothing else. -/
  refused : (∃ e, answer = .error e) ↔ step.isSet = true ∧ ¬ before.IsOpen
  nothing : (∃ e, answer = .error e) ∨ step.isSet = false → LooksLike after before
  all : ∀ key value, step = .set key value → answer = .ok none →
    after.get key = some value ∧ ∀ other, other ≠ key → after.get other = before.get other
  listing : after.listed = before.listed ∨
    before.name ∉ before.listed ∧ after.listed = before.listed ++ [before.name]
  /-- Whatever else is in the folder stays as it is. -/
  beside : ∀ name, name ≠ before.name → after.entry? name = before.entry? name
  path : after.name = before.name

/-- A run of steps from a store, each of which does all or nothing and leaves no temporary file that
was not there at the start. -/
inductive RunsAllOrNothing (start : FileStore) :
    FileStore → List (Store.Step × Store.Answer) → FileStore → Prop
  | done {s : FileStore} : RunsAllOrNothing start s [] s
  | step {before between after : FileStore} {step : Store.Step} {answer : Store.Answer}
      {trace : List (Store.Step × Store.Answer)} :
      IsAllOrNothing before step answer between → HasNoTemporary start between →
      RunsAllOrNothing start between trace after →
      RunsAllOrNothing start before ((step, answer) :: trace) after

/-! ## One step -/

variable {s start : FileStore}

/-- A step after which the store is the same, and which was refused only if it had to be. -/
theorem isAllOrNothing_of_same {step : Store.Step} {answer : Store.Answer}
    (refused : (∃ e, answer = .error e) ↔ step.isSet = true ∧ ¬ s.IsOpen)
    (nothing_set : (∃ e, answer = .error e) ∨ step.isSet = false) :
    IsAllOrNothing s step answer s where
  refused := refused
  nothing := fun _ => LooksLike.refl s
  all := by
    rintro key value rfl rfl
    rcases nothing_set with ⟨e, refused⟩ | asks
    · cases refused
    · cases asks
  listing := .inl rfl
  beside := fun _ _ => rfl
  path := rfl

/-- The names that a folder has after a file was put into it. -/
theorem keys_set_cases {name : String} {entries : KeyedList String Entry} (e : Entry) :
    (entries.set name e).keys = entries.keys ∨
      name ∉ entries.keys ∧ (entries.set name e).keys = entries.keys ++ [name] := by
  by_cases there : name ∈ entries.keys
  · exact .inl (KeyedList.keys_set_of_mem e there)
  · exact .inr ⟨there, KeyedList.keys_set_of_not_mem e there⟩

/-- A folder that can be entered is there, or it is made and empty. -/
theorem folder_of_entered {entries : KeyedList String Entry}
    (entered : s.place.entered = .ok entries) :
    s.listed = entries.keys ∧ ∀ name, s.entry? name = entries.get? name := by
  unfold listed entry?
  cases place : s.place with
  | vacant =>
    rw [place] at entered
    cases entered
    exact ⟨rfl, fun _ => rfl⟩
  | taken =>
    rw [place] at entered
    cases entered
  | folder entries' =>
    rw [place] at entered
    cases entered
    exact ⟨rfl, fun _ => rfl⟩

/-- What a store is after a text was set on an open path: its folder has the new file in it. -/
theorem set_eq_of_isOpen (is_open : s.IsOpen) (key value : String) :
    ∃ entries, s.place.entered = .ok entries ∧ s.set key value = (.ok (), { s with
      place := .folder (entries.set s.name
        (.file (contentOf (s.entries.set key (.text value))))) }) := by
  obtain ⟨entries, entered, not_folder⟩ := Place.entered_of_isOpen is_open
  refine ⟨entries, entered, ?_⟩
  rw [set, Place.replace_of_entered entered, if_neg not_folder]

theorem isAllOrNothing_set_of_isOpen (is_open : s.IsOpen) (key value : String) :
    ∃ after, Store.perform (.file s) (.set key value) = (.ok none, .file after) ∧
      IsAllOrNothing s (.set key value) (.ok none) after := by
  obtain ⟨after, result, -, updated, -⟩ := set_of_isOpen is_open key value
  obtain ⟨entries, entered, same⟩ := set_eq_of_isOpen is_open key value
  rw [result] at same
  have state := (Prod.mk.inj same).2
  refine ⟨after, Store.perform_file_set result, ?_⟩
  constructor
  case refused =>
    refine iff_of_false nofun ?_
    exact fun blocked => blocked.2 is_open
  case nothing =>
    rintro (⟨e, refused⟩ | asks)
    · cases refused
    · cases asks
  case all =>
    intro key' value' told _
    cases told
    refine ⟨?_, ?_⟩
    · rw [get, updated, KeyedList.get?_set_self]
      rfl
    · intro other apart
      rw [get, get, updated, KeyedList.get?_set_of_ne _ _ apart.symm]
  case listing =>
    rw [(folder_of_entered entered).1, state]
    exact keys_set_cases _
  case beside =>
    intro name apart
    rw [(folder_of_entered entered).2, state]
    exact KeyedList.get?_set_of_ne _ _ apart.symm
  case path => rw [state]

theorem isAllOrNothing_set_of_not_isOpen (blocked : ¬ s.IsOpen) (key value : String) :
    ∃ e, Store.perform (.file s) (.set key value) = (.error e, .file s) ∧
      IsAllOrNothing s (.set key value) (.error e) s := by
  obtain ⟨e, failed⟩ :=
    Place.replace_of_not_isOpen blocked (contentOf (s.entries.set key (.text value)))
  refine ⟨.notReplaced e, ?_, ?_⟩
  · simp only [Store.perform, Store.set, set, failed]
    rfl
  · exact isAllOrNothing_of_same (iff_of_true ⟨_, rfl⟩ ⟨rfl, blocked⟩) (.inl ⟨_, rfl⟩)

/-- Every step does all or nothing. -/
theorem exists_isAllOrNothing (s : FileStore) (step : Store.Step) :
    ∃ answer after, Store.perform (.file s) step = (answer, .file after) ∧
      IsAllOrNothing s step answer after := by
  cases step with
  | get key =>
    refine ⟨.ok (s.get key), s, rfl, isAllOrNothing_of_same (iff_of_false nofun ?_) (.inr rfl)⟩
    exact fun told => nomatch told.1
  | set key value =>
    by_cases is_open : s.IsOpen
    · obtain ⟨after, performed, step⟩ := isAllOrNothing_set_of_isOpen is_open key value
      exact ⟨_, after, performed, step⟩
    · obtain ⟨e, performed, step⟩ := isAllOrNothing_set_of_not_isOpen is_open key value
      exact ⟨_, s, performed, step⟩

/-! ## Runs -/

theorem HasNoTemporary.step {step : Store.Step} {answer : Store.Answer} {before after : FileStore}
    (clean : HasNoTemporary start before) (same_path : before.name = start.name)
    (one : IsAllOrNothing before step answer after) : HasNoTemporary start after := by
  intro name member
  rcases one.listing with same | ⟨-, added⟩
  · rw [same] at member
    exact clean name member
  · rw [added] at member
    rcases List.mem_append.mp member with old | new
    · exact clean name old
    · rw [List.mem_singleton.mp new]
      exact .inr same_path

theorem exists_runsAllOrNothing (steps : List Store.Step) {s : FileStore}
    (clean : HasNoTemporary start s) (same_path : s.name = start.name) :
    ∃ after, (Store.run steps (.file s)).2 = .file after ∧
      RunsAllOrNothing start s (Store.run steps (.file s)).1 after := by
  induction steps generalizing s with
  | nil => exact ⟨s, rfl, .done⟩
  | cons step steps ih =>
    obtain ⟨answer, between, performed, one⟩ := exists_isAllOrNothing s step
    have clean' := clean.step same_path one
    obtain ⟨after, last, later⟩ := ih clean' (one.path.trans same_path)
    rw [Store.run_cons, performed]
    exact ⟨after, last, .step one clean' later⟩

/-- Whatever the path of a store holds, and whatever the store is asked and told, each step does all
or nothing, and none leaves a temporary file. -/
theorem run_isAllOrNothing (s : FileStore) (steps : List Store.Step) :
    ∃ after, (Store.run steps (.file s)).2 = .file after ∧
      RunsAllOrNothing s s (Store.run steps (.file s)).1 after :=
  exists_runsAllOrNothing steps (fun _ member => .inl member) rfl

end FileStore

end ContactSearch
