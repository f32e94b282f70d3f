import ContactSearch.Match.Intent

/-!
# Scores of matches

The kind of an intent tells which scores its matches can have, and all of them are positive. So a
sum of scores is zero only where nothing matched, and a contact is never found on the strength of a
match that counts for nothing.
-/

namespace ContactSearch

open Calendar Text

/-- The scores that a match of an intent of a kind can have. -/
def IntentKind.weights : IntentKind → List Int
  | company => [100, 80]
  | source => [50, 30]
  | role => [60]
  | warmth => [40]
  | time => [30]
  | tag => [40]
  | name => Tier.all.map Tier.weight
  | _ => []

theorem IntentKind.weights_pos {k : IntentKind} : ∀ score ∈ k.weights, 0 < score := by
  cases k <;> decide

namespace Match

theorem score_company?_mem {name : String} {c : Contact} {m : Match}
    (found : company? name c = some m) : m.score ∈ IntentKind.weights .company := by
  unfold company? at found
  split at found
  · cases found
  · split at found
    · cases found; simp [IntentKind.weights]
    · split at found
      · cases found; simp [IntentKind.weights]
      · cases found

theorem score_source?_mem {given : Option String} {target : String} {m : Match}
    (found : source? given target = some m) : m.score ∈ IntentKind.weights .source := by
  unfold source? at found
  split at found
  · cases found
  · split at found
    · cases found; simp [IntentKind.weights]
    · split at found
      · cases found
      · split at found
        · cases found; simp [IntentKind.weights]
        · cases found

theorem score_role?_mem {text : String} {c : Contact} {m : Match}
    (found : role? text c = some m) : m.score ∈ IntentKind.weights .role := by
  unfold role? at found
  split at found
  · cases found
  · split at found
    · cases found; simp [IntentKind.weights]
    · cases found

theorem score_warmth?_mem {levels : List Int} {c : Contact} {m : Match}
    (found : warmth? levels c = some m) : m.score ∈ IntentKind.weights .warmth := by
  unfold warmth? at found
  split at found
  · cases found; simp [IntentKind.weights]
  · cases found

theorem score_tag?_mem {text : String} {c : Contact} {m : Match}
    (found : tag? text c = some m) : m.score ∈ IntentKind.weights .tag := by
  obtain ⟨tag, -, rfl⟩ := Option.map_eq_some_iff.mp found
  simp [IntentKind.weights]

theorem score_freeText?_mem {text : String} {c : Contact} {m : Match}
    (found : freeText? text c = some m) : m.score ∈ IntentKind.weights .name := by
  obtain ⟨tier, first, rfl⟩ := Option.map_eq_some_iff.mp found
  exact List.mem_map_of_mem (List.mem_of_find?_eq_some first)

/-- A window of time answers where its span has a start, and matches what lies within the span. -/
theorem added?_eq_ok_iff {now : Timestamp} {days : Int} {c : Contact} {found : Option Match} :
    added? now days c = .ok found ↔ ∃ recent, Recency.within now days c.createdAt = .ok recent ∧
      found = if recent then
        some ⟨30, "Added " ++ String.ofList (Recency.ageText now c.createdAt)⟩ else none := by
  unfold added?
  cases Recency.within now days c.createdAt with
  | error e => simp [bind, Except.bind]
  | ok recent => cases recent <;> simp [bind, Except.bind, pure, Except.pure, eq_comm]

theorem score_added?_mem {now : Timestamp} {days : Int} {c : Contact} {m : Match}
    (found : added? now days c = .ok (some m)) : m.score ∈ IntentKind.weights .time := by
  obtain ⟨recent, -, same⟩ := added?_eq_ok_iff.mp found
  cases recent with
  | false => cases same
  | true => cases same; simp [IntentKind.weights]

theorem score_time?_mem {now : Timestamp} {value : String} {c : Contact} {m : Match}
    (found : time? now value c = .ok (some m)) : m.score ∈ IntentKind.weights .time := by
  unfold time? at found
  split at found
  · cases found
  · exact score_added?_mem found

/-- Whatever kind of intent matches a contact, the match has one of the scores of that kind. -/
theorem score_intent?_mem {now : Timestamp} {i : Intent} {c : Contact} {m : Match}
    (found : intent? now i c = .ok (some m)) : m.score ∈ i.kind.weights := by
  unfold intent? at found
  split at found <;> rename_i kind
  case h_1 => exact kind ▸ score_company?_mem (Except.ok.inj found)
  case h_2 => exact kind ▸ score_source?_mem (Except.ok.inj found)
  case h_3 => exact kind ▸ score_role?_mem (Except.ok.inj found)
  case h_4 =>
    obtain ⟨levels, -, found⟩ := Option.bind_eq_some_iff.mp (Except.ok.inj found)
    exact kind ▸ score_warmth?_mem found
  case h_5 => exact kind ▸ score_time?_mem found
  case h_6 => exact kind ▸ score_tag?_mem (Except.ok.inj found)
  case h_7 => exact kind ▸ score_freeText?_mem (Except.ok.inj found)
  case h_8 => cases found

theorem score_intent?_pos {now : Timestamp} {i : Intent} {c : Contact} {m : Match}
    (found : intent? now i c = .ok (some m)) : 0 < m.score :=
  IntentKind.weights_pos m.score (score_intent?_mem found)

theorem score_freeText?_pos {text : String} {c : Contact} {m : Match}
    (found : freeText? text c = some m) : 0 < m.score :=
  IntentKind.weights_pos m.score (score_freeText?_mem found)

end Match

/-! ## A contact of our days -/

/-- A contact of whom the name and the warmth are known, entered in June. -/
def Contact.known (firstName lastName : String) (warmth : Warmth) : Contact :=
  ⟨1, firstName, lastName, none, none, none, none, none, warmth, none, [], none, none, none,
    ⟨⟨2024, 6, 10, by decide⟩, .midnight, some .utc⟩, none⟩

/-- A morning in the same week. -/
def Calendar.Timestamp.juneMorning : Timestamp :=
  ⟨⟨2024, 6, 15, by decide⟩, ⟨9, 0, 0, 0, by decide⟩, some .utc⟩

end ContactSearch
