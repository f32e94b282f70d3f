import ContactSearch.Proofs.Query.Keywords
import ContactSearch.Proofs.Query.Spans

/-!
# Longer keywords

Some keywords are part of longer ones of the same table. The entries of a table are tried in order, so
a longer keyword is preferred if it is listed first, as "head of" and "vice president" are. Three roles
and one phrase for time are listed behind a keyword that is part of them. They are hidden by it: where
they stand the shorter one is reported, and the rest of them is left in the text.
-/

namespace ContactSearch

open Text

/-- The pattern covers a span of the text that has the span of the cut in it. -/
def Text.Pattern.CoversAround (p : Pattern) (cut : Cut) : Prop :=
  ∃ a u v b, cut.before = a ++ u ∧ cut.after = v ++ b ∧
    p.Covers a.reverse (u ++ cut.found ++ v) b

theorem Text.Pattern.CoversAround.occurs {p : Pattern} {cut : Cut} (around : p.CoversAround cut) :
    p.Occurs (cut.before ++ cut.found ++ cut.after) := by
  obtain ⟨a, u, v, b, before, after, covers⟩ := around
  exact ⟨a, u ++ cut.found ++ v, b, by simp [before, after], covers⟩

/-- A pattern that covers the whole text does so around whatever is found in it. -/
theorem Text.Pattern.coversAround_of_whole {p q : Pattern} {text : List Char} {cut : Cut}
    (covers : p.Covers [] text []) (found : q.find? text = some cut) : p.CoversAround cut := by
  obtain ⟨whole, -⟩ := covers_of_find? found
  rw [whole] at covers
  exact ⟨[], cut.before, cut.after, [], rfl, (List.append_nil _).symm, covers⟩

namespace Query

/-- A step that looks for the keywords of a table in a text: which keywords it sees there, and the intent
that each is reported as. In each of the pairs the first keyword hides the second one. -/
structure Lookup where
  step : Step
  sees : String → Prop
  pattern : String → Pattern
  entries : List (String × Intent)
  hidden : List (String × String)

/-- Roles are looked for as words. -/
def roleLookup (text : List Char) : Lookup where
  step := extractRole
  sees role := (Pattern.word role).Occurs text
  pattern := .word
  entries := roles.map fun role => (role, roleIntent role)
  hidden := [("director", "managing director"), ("founder", "co-founder"),
    ("manager", "portfolio manager")]

/-- Phrases for time are looked for in the text in lower case, also inside words. -/
def timeLookup (text : List Char) : Lookup where
  step := extractTime (lower text)
  sees phrase := contains phrase.toList (lower text) = true
  pattern := .text
  entries := timePhrases.map fun (phrase, days) => (phrase, timeIntent phrase days)
  hidden := [("recent", "recently")]

/-- The step reports a keyword that it sees and takes out its span. No longer keyword of the table is found
around the span, but for those that this one hides, and it is none of the hidden ones. -/
structure Lookup.Reports (lookup : Lookup) (text : List Char) (key : String) (cut : Cut) : Prop where
  seen : lookup.sees key
  listed : ∃ i, (key, i) ∈ lookup.entries ∧ runSteps [lookup.step] text = ([i], cut.rest)
  span : (lookup.pattern key).find? text = some cut
  longest : ∀ longer i, (longer, i) ∈ lookup.entries → key.length < longer.length →
    (lookup.pattern longer).CoversAround cut → (key, longer) ∈ lookup.hidden
  reachable : ∀ shorter, (shorter, key) ∉ lookup.hidden

/-- The step sees no keyword and leaves the text alone, or it reports one around which there is no longer
one that could have been reported. -/
def Lookup.PrefersLonger (lookup : Lookup) (text : List Char) : Prop :=
  (runSteps [lookup.step] text = ([], text) ∧ ∀ key i, (key, i) ∈ lookup.entries → ¬ lookup.sees key) ∨
    ∃ key cut, lookup.Reports text key cut

/-! ## The first entry of a table -/

section Tables

variable {α β : Type} {table : List α} {R : α → α → Prop}

/-- Whatever else is found in an ordered table stands behind what is found first. -/
theorem exists_first_of_findSome? {f : α → Option β} {y : β} (order : table.Pairwise R)
    (found : table.findSome? f = some y) :
    ∃ a ∈ table, f a = some y ∧ ∀ b ∈ table, f b ≠ none → a = b ∨ R a b := by
  obtain ⟨earlier, a, later, rfl, there, none⟩ := List.findSome?_eq_some_iff.mp found
  refine ⟨a, by simp, there, ?_⟩
  intro b listed some
  rcases List.mem_append.mp listed with before | here
  · exact absurd (none b before) some
  · rcases List.mem_cons.mp here with same | behind
    · exact .inl same.symm
    · have rest := (List.pairwise_append.mp order).2.1
      exact .inr ((List.pairwise_cons.mp rest).1 b behind)

theorem eq_or_rel_of_find? {test : α → Bool} {a b : α} (order : table.Pairwise R)
    (found : table.find? test = some a) (listed : b ∈ table) (there : test b = true) :
    a = b ∨ R a b := by
  rw [List.find?_eq_findSome?_guard] at found
  obtain ⟨first, -, same, others⟩ := exists_first_of_findSome? order found
  obtain ⟨rfl, -⟩ := Option.guard_eq_some_iff.mp same
  exact others b listed (by simp [there])

end Tables

/-! ## Roles -/

section Roles

/-- The table of roles: a role that stands alone in one behind it that is no single word hides that one,
no role is hidden by one behind it, a shorter role stands in each hidden one, and all roles are ASCII. -/
theorem nested_roles :
    roles.Pairwise (fun role key => (key.toList.all isWordChar = false →
      ((Pattern.word role).find? key.toList).isSome = true → (role, key) ∈ (roleLookup []).hidden) ∧
        (key, role) ∉ (roleLookup []).hidden) ∧
    (∀ pair ∈ (roleLookup []).hidden, pair.1 ∈ roles ∧ pair.2 ∈ roles ∧ pair.1.length < pair.2.length ∧
      ((Pattern.word pair.1).find? pair.2.toList).isSome = true) ∧
    ∀ role ∈ roles, (role.toList.map fold).all (fun c => c.toNat < 128) = true := by
  decide +kernel

theorem ascii_roles {key : String} (listed : key ∈ roles) :
    ∀ c ∈ key.toList.map fold, c.toNat < 128 := by
  have low := nested_roles.2.2 key listed
  simpa only [List.all_eq_true, decide_eq_true_eq] using low

variable {role key : String} {text : List Char}

theorem isSome_find?_word_iff (listed : role ∈ roles) :
    ((Pattern.word role).find? text).isSome = true ↔ HasKeyword role.toList text := by
  rw [← occurs_word_iff (isLettered_tables.2 role listed), ← not_iff_not,
    ← Pattern.find?_eq_none_iff_not_occurs, Bool.not_eq_true, Option.isSome_eq_false_iff,
    Option.isNone_iff_eq_none]

/-- A role that is found inside the span of another one stands alone in that one. -/
theorem hasKeyword_of_coversAround {cut : Cut} (listed : role ∈ roles) (other : key ∈ roles)
    (covers : (Pattern.word role).Covers cut.before.reverse cut.found cut.after)
    (around : (Pattern.word key).CoversAround cut) : HasKeyword role.toList key.toList := by
  obtain ⟨a, u, v, b, before, after, outer⟩ := around
  have stands := (covers_word_iff_stands (isLettered_tables.2 role listed)).mp covers
  rw [List.reverse_reverse, before, after] at stands
  have inside : HasKeyword role.toList (u ++ cut.found ++ v) :=
    ⟨u, cut.found, v, rfl, stands.same, getLast?_any_of_append stands.left,
      head?_any_of_append stands.right⟩
  exact inside.of_map_fold (Pattern.covers_word_iff.mp outer).1 (ascii_roles other)

/-- A text that has a role has the roles that stand alone in it. -/
theorem hasKeyword_of_nested (other : key ∈ roles) (nested : HasKeyword role.toList key.toList)
    (has : HasKeyword key.toList text) : HasKeyword role.toList text := by
  obtain ⟨before, w, after, rfl, stands⟩ := has
  refine HasKeyword.extend ?_ stands.left stands.right
  refine nested.of_map_fold stands.same.symm ?_
  rw [stands.same]
  exact ascii_roles other

/-- The role that is reported comes first of those that the text has. -/
theorem exists_role_of_extractRole {R : String → String → Prop} {found : Finding}
    (order : roles.Pairwise R) (taken : extractRole text = some found) :
    ∃ role ∈ roles, ∃ cut, (Pattern.word role).find? text = some cut ∧
      found = ⟨roleIntent role, cut.rest⟩ ∧
        ∀ key ∈ roles, HasKeyword key.toList text → role = key ∨ R role key := by
  obtain ⟨role, listed, there, others⟩ := exists_first_of_findSome? order taken
  obtain ⟨cut, span⟩ := takeOut?_word there
  refine ⟨role, listed, cut, span, ?_, ?_⟩
  · simpa [takeOut?, span, eq_comm] using there
  · intro key other has
    refine others key other ?_
    rw [Ne, takeOut?_eq_none_iff]
    intro missing
    exact missing _ (List.mem_singleton_self _)
      ((occurs_word_iff (isLettered_tables.2 key other)).mpr has)

/-- The step for roles prefers longer roles, but for the hidden ones. -/
theorem reports_extractRole {found : Finding} (taken : extractRole text = some found) :
    ∃ key cut, (roleLookup text).Reports text key cut := by
  obtain ⟨order, hidden, -⟩ := nested_roles
  obtain ⟨role, listed, cut, span, rfl, others⟩ := exists_role_of_extractRole order taken
  have has : HasKeyword role.toList text :=
    (isSome_find?_word_iff listed).mp (Option.isSome_of_mem span)
  obtain ⟨whole, covers⟩ := Pattern.covers_of_find? span
  refine ⟨role, cut, Pattern.occurs_of_find? span, ?listed, span, ?longest, ?reachable⟩
  case listed =>
    exact ⟨roleIntent role, List.mem_map_of_mem listed, runSteps_of_some taken⟩
  case longest =>
    intro longer i entry long around
    obtain ⟨other, inRoles, same⟩ := List.mem_map.mp entry
    obtain ⟨rfl, -⟩ := Prod.mk.inj same
    have nested := hasKeyword_of_coversAround listed inRoles covers around
    have there : HasKeyword other.toList text := by
      rw [← occurs_word_iff (isLettered_tables.2 other inRoles), whole]
      exact around.occurs
    rcases others other inRoles there with rfl | ⟨hides, -⟩
    · exact absurd long (Nat.lt_irrefl _)
    · refine hides ?_ ((isSome_find?_word_iff listed).mpr nested)
      -- In a single word no shorter role stands alone.
      refine Bool.eq_false_iff.mpr fun letters => ?_
      have equal := nested.length_eq letters
      rw [String.length_toList, String.length_toList] at equal
      omega
  case reachable =>
    intro shorter hides
    obtain ⟨other, -, long, nested⟩ := hidden _ hides
    have there := hasKeyword_of_nested listed ((isSome_find?_word_iff other).mp nested) has
    rcases others shorter other there with rfl | ⟨-, behind⟩
    · exact Nat.lt_irrefl _ long
    · exact behind hides

end Roles

/-! ## Phrases for time -/

section Time

variable {text : List Char}

/-- The table of phrases: a phrase that is part of a longer one hides it, none is hidden by one behind it,
and a shorter one is part of the hidden one. -/
theorem nested_timePhrases :
    (∀ a ∈ timePhrases, ∀ b ∈ timePhrases, a.1.length < b.1.length →
      contains (a.1.toList.map fold) (b.1.toList.map fold) = true →
        (a.1, b.1) ∈ (timeLookup []).hidden) ∧
    timePhrases.Pairwise (fun a b => (b.1, a.1) ∉ (timeLookup []).hidden) ∧
    ∀ pair ∈ (timeLookup []).hidden, (∃ entry ∈ timePhrases, entry.1 = pair.1) ∧
      pair.1.length < pair.2.length ∧ contains pair.1.toList pair.2.toList = true := by
  decide +kernel

theorem hasText_of_coversAround {phrase longer : String} {cut : Cut}
    (covers : (Pattern.text phrase).Covers cut.before.reverse cut.found cut.after)
    (around : (Pattern.text longer).CoversAround cut) : HasText phrase.toList longer.toList := by
  obtain ⟨a, u, v, b, -, -, outer⟩ := around
  rw [HasText, ← Pattern.covers_text_iff.mp covers, ← Pattern.covers_text_iff.mp outer]
  exact List.IsInfix.map fold ⟨u, v, rfl⟩

/-- The step for time prefers longer phrases, but for the hidden one. -/
theorem reports_extractTime {found : Finding} (taken : extractTime (lower text) text = some found) :
    ∃ key cut, (timeLookup text).Reports text key cut := by
  obtain ⟨parts, order, hidden⟩ := nested_timePhrases
  obtain ⟨⟨phrase, days⟩, first, -⟩ := Option.map_eq_some_iff.mp taken
  obtain ⟨cut, span, report⟩ := extractTime_of_first first
  have listed := List.mem_of_find?_eq_some first
  have occurs : contains phrase.toList (lower text) = true := by simpa using List.find?_some first
  obtain ⟨-, covers⟩ := Pattern.covers_of_find? span
  refine ⟨phrase, cut, occurs, ?listed, span, ?longest, ?reachable⟩
  case listed =>
    exact ⟨timeIntent phrase days, List.mem_map.mpr ⟨(phrase, days), listed, rfl⟩,
      runSteps_of_some report⟩
  case longest =>
    intro longer i entry long around
    obtain ⟨⟨other, _⟩, inTable, same⟩ := List.mem_map.mp entry
    obtain ⟨rfl, -⟩ := Prod.mk.inj same
    -- The longer phrase need not be in the text in lower case, so the order of the table is no help.
    refine parts _ listed _ inTable long ?_
    exact contains_iff.mpr (hasText_of_coversAround covers around)
  case reachable =>
    intro shorter hides
    obtain ⟨⟨entry, inTable, rfl⟩, long, nested⟩ := hidden _ hides
    have there : contains entry.1.toList (lower text) = true :=
      contains_iff.mpr ((contains_iff.mp nested).trans (contains_iff.mp occurs))
    rcases eq_or_rel_of_find? order first inTable there with same | behind
    · exact Nat.lt_irrefl _ (congrArg Prod.fst same ▸ long)
    · exact behind hides

end Time

/-- The steps for roles and for time prefer longer keywords, but for the hidden ones, which they report for
no text. -/
theorem lookups_preferLonger (text : List Char) :
    (roleLookup text).PrefersLonger text ∧ (timeLookup text).PrefersLonger text := by
  constructor
  · cases taken : extractRole text with
    | some found => exact .inr (reports_extractRole taken)
    | none =>
      refine .inl ⟨runSteps_eq_self_iff.mpr taken, fun key i entry => ?_⟩
      obtain ⟨role, listed, same⟩ := List.mem_map.mp entry
      obtain ⟨rfl, -⟩ := Prod.mk.inj same
      have missing := List.findSome?_eq_none_iff.mp taken role listed
      exact takeOut?_eq_none_iff.mp missing _ (List.mem_singleton_self _)
  · cases taken : extractTime (lower text) text with
    | some found => exact .inr (reports_extractTime taken)
    | none =>
      refine .inl ⟨runSteps_eq_self_iff.mpr taken, fun key i entry => ?_⟩
      obtain ⟨⟨phrase, days⟩, listed, same⟩ := List.mem_map.mp entry
      obtain ⟨rfl, -⟩ := Prod.mk.inj same
      exact List.find?_eq_none.mp (Option.map_eq_none_iff.mp taken) (phrase, days) listed

/-- The longer keyword is the whole text, but the shorter one is reported, and the rest of the longer one
is left. -/
structure Lookup.Cuts (lookup : Lookup) (shorter longer : String) (cut : Cut) : Prop where
  long : shorter.length < longer.length
  listed : ∃ i, (longer, i) ∈ lookup.entries
  around : (lookup.pattern longer).CoversAround cut
  report : ∃ i, (shorter, i) ∈ lookup.entries ∧ runSteps [lookup.step] longer.toList = ([i], cut.rest)
  left : cut.rest ≠ []

/-- Each of the hidden keywords is cut by the one that hides it. -/
theorem hidden_keywords_are_cut :
    (∀ pair ∈ (roleLookup []).hidden, ∃ cut,
      (roleLookup pair.2.toList).Cuts pair.1 pair.2 cut) ∧
      ∃ cut, (timeLookup "recently".toList).Cuts "recent" "recently" cut := by
  have reported : ∀ pair ∈ (roleLookup []).hidden, ∀ cut ∈ (Pattern.word pair.1).find? pair.2.toList,
      runSteps [extractRole] pair.2.toList = ([roleIntent pair.1], cut.rest) ∧ cut.rest ≠ [] := by
    decide +kernel
  constructor
  · intro pair hides
    obtain ⟨inner, outer, long, nested⟩ := nested_roles.2.1 pair hides
    obtain ⟨cut, span⟩ := Option.isSome_iff_exists.mp nested
    obtain ⟨report, left⟩ := reported pair hides cut span
    have covers : (Pattern.word pair.2).Covers [] pair.2.toList [] :=
      (covers_word_iff_stands (isLettered_tables.2 pair.2 outer)).mpr ⟨rfl, rfl, rfl⟩
    exact ⟨cut, long, ⟨_, List.mem_map_of_mem outer⟩, Pattern.coversAround_of_whole covers span,
      ⟨_, List.mem_map_of_mem inner, report⟩, left⟩
  · have span : (Pattern.text "recent").find? "recently".toList =
        some ⟨[], "recent".toList, "ly".toList⟩ := by decide +kernel
    have covers : (Pattern.text "recently").Covers [] "recently".toList [] := .literal rfl
    refine ⟨_, by decide, ⟨timeIntent "recently" 30, ?_⟩, Pattern.coversAround_of_whole covers span,
      ⟨timeIntent "recent" 30, ?_, ?_⟩, ?_⟩
    all_goals decide +kernel

end Query

end ContactSearch
