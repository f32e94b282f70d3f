import ContactSearch.Proofs.Match.Score
import ContactSearch.Proofs.Number.Digits
import ContactSearch.Proofs.Recency.Moments

/-!
# Ages in words

The age of what has happened is told as today, as yesterday or by a number of units that are over,
and nothing but that is told of it. What is still to come counts as so many days below zero, and
these are told with their minus sign. A window of time lets such contacts through and gives that age
as the reason.
-/

namespace ContactSearch.Recency

open Calendar Text

/-! ## What can be told -/

/-- The units in which ages are told. -/
inductive AgeUnit where
  | days
  | weeks
  | months
deriving DecidableEq

namespace AgeUnit

/-- The length of a unit in days. -/
def length : AgeUnit → Nat
  | days => 1
  | weeks => 7
  | months => 30

/-- What follows the number of units. -/
def wording : AgeUnit → String
  | days => " days ago"
  | weeks => " weeks ago"
  | months => " months ago"

/-- A number of units, told as an age. -/
def ago (unit : AgeUnit) (n : Nat) : List Char :=
  natText n ++ unit.wording.toList

/-- The greatest unit that fits into a number of days. -/
def ofDays (days : Nat) : AgeUnit :=
  if days < 7 then .days else if days < 30 then .weeks else .months

theorem length_ofDays_le {days : Nat} (some : 1 ≤ days) : (ofDays days).length ≤ days := by
  unfold ofDays
  split_ifs <;> simp only [length] <;> omega

theorem lt_length_of_ofDays {days : Nat} {greater : AgeUnit}
    (less : (ofDays days).length < greater.length) : days < greater.length := by
  unfold ofDays at less
  split_ifs at less <;> cases greater <;> simp only [length] at less ⊢ <;> omega

theorem head?_ago (unit : AgeUnit) (n : Nat) : (unit.ago n).head? ≠ some '-' := by
  cases digits : natText n with
  | nil => exact absurd digits (natText_ne_nil n)
  | cons c rest =>
    have digit : c.isDigit = true := isDigit_of_mem_natText (digits ▸ List.mem_cons_self)
    rw [ago, digits]
    rintro ⟨⟩
    cases digit

end AgeUnit

/-- A text tells an age, given in microseconds. -/
inductive TellsAge (age : Int) : List Char → Prop
  | today (young : age < dayLength) : TellsAge age "today".toList
  | yesterday (reached : dayLength ≤ age) (running : age < 2 * dayLength) :
    TellsAge age "yesterday".toList
  /-- So many units are over and the next one is not; and no greater unit is over. -/
  | ago (unit : AgeUnit) (n : Nat) (some : 1 ≤ n) (reached : n * (unit.length * dayLength) ≤ age)
    (running : age < (n + 1) * (unit.length * dayLength))
    (greatest : ∀ greater : AgeUnit, unit.length < greater.length →
      age < greater.length * dayLength) : TellsAge age (unit.ago n)

/-- No text that tells an age starts with a minus sign. -/
theorem TellsAge.head?_ne {age : Int} {text : List Char} (tells : TellsAge age text) :
    text.head? ≠ some '-' := by
  cases tells with
  | today => decide
  | yesterday => decide
  | ago unit n => exact unit.head?_ago n

/-- Two days or more are told by the greatest unit that fits into them. -/
theorem tellsAge_ago {days : Nat} {age : Int} (some : 1 ≤ days) (reached : days * dayLength ≤ age)
    (running : age < (days + 1) * dayLength) :
    TellsAge age ((AgeUnit.ofDays days).ago (days / (AgeUnit.ofDays days).length)) := by
  have fits := AgeUnit.length_ofDays_le some
  have greatest : ∀ greater : AgeUnit, (AgeUnit.ofDays days).length < greater.length →
      days < greater.length := fun _ => AgeUnit.lt_length_of_ofDays
  generalize AgeUnit.ofDays days = unit at fits greatest
  simp only [dayLength, secondLength] at reached running
  refine .ago unit _ ?_ ?_ ?_ ?_
  · exact Nat.div_pos fits (by cases unit <;> decide)
  · cases unit <;> simp only [AgeUnit.length, dayLength, secondLength] <;> omega
  · cases unit <;> simp only [AgeUnit.length, dayLength, secondLength] <;> omega
  · intro greater less
    have below := greatest greater less
    simp only [dayLength, secondLength]
    cases greater <;> simp only [AgeUnit.length] at below ⊢ <;> omega

/-! ## What is told -/

section Told

variable {now created : Timestamp}

theorem intText_natCast (n : Nat) : intText n = natText n := by
  rw [intText, if_neg (Int.not_lt.mpr (Int.natCast_nonneg n)), Int.natAbs_natCast]

theorem fdiv_natCast (a b : Nat) : Int.fdiv a b = (a / b : Nat) := by
  rw [Int.fdiv_eq_ediv_of_nonneg _ (Int.natCast_nonneg b), Int.natCast_ediv]

theorem ageText_eq_ago {days : Nat} (several : 2 ≤ days) (counted : ageInDays now created = days) :
    ageText now created = (AgeUnit.ofDays days).ago (days / (AgeUnit.ofDays days).length) := by
  rw [ageText, counted, if_neg (by omega), if_neg (by omega), AgeUnit.ofDays]
  by_cases week : days < 7
  · rw [if_pos week, if_pos (by omega), intText_natCast, AgeUnit.length, Nat.div_one]
    rfl
  rw [if_neg week, if_neg (by omega)]
  by_cases month : days < 30
  · rw [if_pos month, if_pos (by omega), ← Nat.cast_ofNat (n := 7), fdiv_natCast, intText_natCast]
    rfl
  · rw [if_neg month, if_neg (by omega), ← Nat.cast_ofNat (n := 30), fdiv_natCast, intText_natCast]
    rfl

/-- The age of what has happened is told. -/
theorem tellsAge_ageText (past : created.instant ≤ now.instant) :
    TellsAge (now.instant - created.instant) (ageText now created) := by
  obtain ⟨reached, running⟩ := ageInDays_eq_iff.mp (rfl : ageInDays now created = _)
  have counted : 0 ≤ ageInDays now created := by
    simp only [dayLength, secondLength] at running
    omega
  obtain ⟨days, full⟩ := Int.eq_ofNat_of_zero_le counted
  rw [full] at reached running
  rcases Nat.lt_trichotomy days 1 with none | one | several
  · obtain rfl : days = 0 := by omega
    rw [ageText, full, if_pos Nat.cast_zero]
    exact .today (by omega)
  · subst one
    rw [ageText, full, if_neg (by decide), if_pos Nat.cast_one]
    exact .yesterday (by omega) (by omega)
  · rw [ageText_eq_ago several full]
    exact tellsAge_ago (Nat.le_of_lt several) reached running

/-- What is still to come is told as a negative number of days, rounded up. -/
theorem ageText_of_later (later : now.instant < created.instant) :
    ∃ n : Nat, 1 ≤ n ∧ ((n : Int) - 1) * dayLength < created.instant - now.instant ∧
      created.instant - now.instant ≤ n * dayLength ∧
      ageText now created = '-' :: AgeUnit.days.ago n := by
  obtain ⟨reached, running⟩ := ageInDays_eq_iff.mp (rfl : ageInDays now created = _)
  simp only [dayLength, secondLength] at reached running ⊢
  have negative : ageInDays now created < 0 := by omega
  refine ⟨(ageInDays now created).natAbs, by omega, by omega, by omega, ?_⟩
  rw [ageText, if_neg (by omega), if_neg (by omega), if_pos (by omega), intText, if_pos negative]
  rfl

end Told

end ContactSearch.Recency

namespace ContactSearch

open Calendar Recency Text

namespace Match

variable {now : Timestamp} {i : Intent} {c : Contact}

/-- An intent on time that gives an answer is read as a span of days, and matches what lies within
the span, with the age as the reason; one that cannot be read matches nothing. -/
theorem intent?_time_eq_ok {found : Option Match} (time : i.kind = .time)
    (run : intent? now i c = .ok found) : (readInt? i.value.toList = none ∧ found = none) ∨
      ∃ days recent, readInt? i.value.toList = some days ∧
        Recency.within now days c.createdAt = .ok recent ∧
        found = if recent then some ⟨30, "Added " ++ String.ofList (ageText now c.createdAt)⟩
          else none := by
  rw [intent?, time] at run
  dsimp only [time?] at run
  cases read : readInt? i.value.toList with
  | none =>
    rw [read] at run
    exact .inl ⟨rfl, (Except.ok.inj run).symm⟩
  | some days =>
    rw [read] at run
    obtain ⟨recent, answered, same⟩ := added?_eq_ok_iff.mp run
    exact .inr ⟨days, recent, rfl, answered, same⟩

/-- The reason of a match within a window of time tells the age. -/
theorem reason_of_time {m : Match} (time : i.kind = .time)
    (run : intent? now i c = .ok (some m)) :
    m.reason = "Added " ++ String.ofList (ageText now c.createdAt) := by
  rcases intent?_time_eq_ok time run with ⟨-, never⟩ | ⟨-, recent, -, -, same⟩
  · cases never
  · cases recent with
    | false => cases same
    | true =>
      cases same
      rfl

/-- What is still to come lies within every window of time. -/
theorem isSome_of_later {days : Int} {found : Option Match} (time : i.kind = .time)
    (read : readInt? i.value.toList = some days) (back : 0 ≤ days)
    (later : now.instant < c.createdAt.instant) (run : intent? now i c = .ok found) :
    found.isSome = true := by
  rcases intent?_time_eq_ok time run with ⟨unread, -⟩ | ⟨days', recent, again, answered, same⟩
  · rw [read] at unread
    cases unread
  · rw [read] at again
    cases again
    have span : 0 ≤ days * dayLength := Int.mul_nonneg back (Int.natCast_nonneg _)
    have inside : recent = true := (recent_iff answered).mpr (by omega)
    rw [same, inside]
    rfl

end Match

/-- The age of what has happened is told in words, as today, yesterday or so many units. What is
still to come is told by a negative number of days; and since it lies within every window of time,
the window finds such contacts and gives that age as the reason. -/
theorem Recency.ageText_tellsPast (now : Timestamp) :
    (∀ created : Timestamp,
      (TellsAge (now.instant - created.instant) (ageText now created) ↔
        created.instant ≤ now.instant) ∧
      (now.instant < created.instant → ∃ n : Nat, 1 ≤ n ∧
        ((n : Int) - 1) * dayLength < created.instant - now.instant ∧
        created.instant - now.instant ≤ n * dayLength ∧
        ageText now created = '-' :: AgeUnit.days.ago n)) ∧
    ∀ (i : Intent) (c : Contact), i.kind = .time →
      (∀ m, Match.intent? now i c = .ok (some m) →
        m.reason = "Added " ++ String.ofList (ageText now c.createdAt)) ∧
      ∀ days, readInt? i.value.toList = some days → 0 ≤ days →
        now.instant < c.createdAt.instant →
        ∀ m, Match.intent? now i c = .ok m → m.isSome = true := by
  constructor
  · intro created
    refine ⟨⟨?_, tellsAge_ageText⟩, ageText_of_later⟩
    intro tells
    by_contra future
    obtain ⟨n, -, -, -, negative⟩ := ageText_of_later (Int.not_le.mp future)
    exact tells.head?_ne (by rw [negative]; rfl)
  · intro i c time
    refine ⟨fun m => Match.reason_of_time time, ?_⟩
    intro days read back later m found
    exact Match.isSome_of_later time read back later found

/-- An hour after that morning in June. -/
def Calendar.Timestamp.juneForenoon : Timestamp :=
  ⟨Timestamp.juneMorning.date, ⟨10, 0, 0, 0, by decide⟩, some .utc⟩

/-- A contact whose clock was an hour ahead was added minus one days ago. -/
theorem Recency.juneForenoon_isTold_negative :
    ageText .juneMorning .juneForenoon = "-1 days ago".toList ∧
      ¬ TellsAge (Timestamp.juneMorning.instant - Timestamp.juneForenoon.instant)
        (ageText .juneMorning .juneForenoon) ∧
      Match.intent? .juneMorning ⟨.time, "7", "Added this week"⟩
          { Contact.known "Ada" "Byron" .hot with createdAt := .juneForenoon } =
        .ok (some ⟨30, "Added -1 days ago"⟩) := by
  have negative : ageText .juneMorning .juneForenoon = "-1 days ago".toList := by decide
  refine ⟨negative, ?_, by decide⟩
  intro tells
  exact tells.head?_ne (by rw [negative]; rfl)

end ContactSearch
