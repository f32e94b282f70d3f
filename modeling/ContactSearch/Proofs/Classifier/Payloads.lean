import ContactSearch.Classifier.Reading
import ContactSearch.Proofs.Json.Encodings
import ContactSearch.Proofs.Wire.Acceptance

/-!
# Payloads of the classifier

What comes of reading a payload depends on the value that it holds and not on its form. There is an
answer exactly where the value is an object with an object of filters, and each of its known fields
is such as the schema describes; otherwise one of four errors tells how far the payload went. Text
that overflows the room of its reader is the exception: its reading breaks, whatever it holds.
-/

namespace ContactSearch

open Text Wire

variable {p : Payload} {v : Json} {fields : List (String × Json)}

/-! ## What a payload holds -/

namespace Payload

/-- The payload is the value, or a text that holds it, or octets that do. -/
inductive Holds : Payload → Json → Prop where
  | text {s : String} {v : Json} (read : Json.read s.toList = .ok v) : Holds (.text s) v
  | octets {s : Octets} {v : Json} (read : Json.readOctets s = .ok v) : Holds (.octets s) v
  | decoded (v : Json) : Holds (.decoded v) v

theorem Holds.decode (holds : p.Holds v) : p.decode = .ok v := by
  cases holds with
  | text read =>
    rw [Payload.decode, read]
    rfl
  | octets read =>
    rw [Payload.decode, read]
    rfl
  | decoded => rfl

/-- A payload holds a value, or decoding it fails in the one way in which it can. -/
theorem holds_or_malformed (p : Payload) :
    (∃ v, p.Holds v) ∨ p.decode = .error .malformed := by
  cases p with
  | text s =>
    cases read : Json.read s.toList with
    | ok v => exact .inl ⟨v, .text read⟩
    | error e =>
      right
      rw [decode, read]
      rfl
  | octets s =>
    cases read : Json.readOctets s with
    | ok v => exact .inl ⟨v, .octets read⟩
    | error e =>
      right
      rw [decode, read]
      rfl
  | decoded v => exact .inl ⟨v, .decoded v⟩

end Payload

namespace ClassifierAnswer

/-! ## Reading what is held -/

/-- The fields hold an object of filters. -/
def HasFilters (fields : List (String × Json)) : Prop :=
  ∃ given, KeyedList.get? "filters" fields = some (.object given)

theorem isObject_iff : isObject v = true ↔ ∃ fields, v = .object fields := by
  cases v <;> simp [isObject]

theorem any_isObject_iff :
    ((Json.object fields).field? "filters").any isObject = true ↔ HasFilters fields := by
  show (KeyedList.get? "filters" fields).any isObject = true ↔ _
  cases found : KeyedList.get? "filters" fields with
  | none => simp [HasFilters, found]
  | some v => simp [HasFilters, found, isObject_iff]

theorem read_of_holds (holds : p.Holds v) : read p = ofJson v := by
  rw [read, holds.decode]
  rfl

theorem ofJson_of_not_object (other : ∀ fields, v ≠ .object fields) :
    ofJson v = .error .notObject := by
  have plain : isObject v = false := by
    rw [← Bool.not_eq_true, isObject_iff]
    exact fun ⟨fields, same⟩ => other fields same
  rw [ofJson, plain]
  rfl

theorem ofJson_of_not_hasFilters (without : ¬ HasFilters fields) :
    ofJson (.object fields) = .error .noFilters := by
  have missing : ((Json.object fields).field? "filters").any isObject = false := by
    rwa [← Bool.not_eq_true, any_isObject_iff]
  rw [ofJson, missing]
  rfl

theorem ofJson_of_hasFilters (filters : HasFilters fields) :
    ofJson (.object fields) = (schema.read (.object fields)).mapError .invalid := by
  rw [ofJson, any_isObject_iff.mpr filters]
  rfl

/-- There is an answer where an object with filters is accepted. -/
theorem ofJson_eq_ok_iff {a : ClassifierAnswer} :
    ofJson v = .ok a ↔
      ∃ fields, v = .object fields ∧ HasFilters fields ∧ schema.read (.object fields) = .ok a := by
  constructor
  · intro reads
    by_cases object : ∃ fields, v = .object fields
    · obtain ⟨fields, rfl⟩ := object
      by_cases filters : HasFilters fields
      · rw [ofJson_of_hasFilters filters] at reads
        cases result : schema.read (.object fields) <;> rw [result] at reads <;> cases reads
        exact ⟨fields, rfl, filters, result⟩
      · rw [ofJson_of_not_hasFilters filters] at reads
        cases reads
    · rw [ofJson_of_not_object fun fields same => object ⟨fields, same⟩] at reads
      cases reads
  · rintro ⟨fields, rfl, filters, result⟩
    rw [ofJson_of_hasFilters filters, result]
    rfl

/-! ## Room -/

variable {room : Option Nat}

theorem readWithin_of_overflow {c : Json.Compound} (overflows : p.overflow? room = some c) :
    readWithin room p = .error (.tooDeep c) := by
  rw [readWithin, overflows]

theorem readWithin_of_within (within : p.overflow? room = none) :
    readWithin room p = (read p).mapError .rejected := by
  rw [readWithin, within]

/-- An answer is read where nothing overflows the room and the payload is read without bounds. -/
theorem exists_readWithin_iff :
    (∃ a, readWithin room p = .ok a) ↔ p.overflow? room = none ∧ ∃ a, read p = .ok a := by
  cases overflow : p.overflow? room with
  | some c => simp [readWithin_of_overflow overflow]
  | none =>
    rw [readWithin_of_within overflow]
    cases read p <;> simp [Except.mapError]

/-- Octets overflow a room where the text that they hold does. -/
theorem overflow?_octets {octets : Octets} {s : List Char}
    (same : Json.readOctetsWithin room octets = (Json.readWithin room s).mapError .unreadable) :
    (Payload.octets octets).overflow? room = Json.overflow? room s := by
  rw [Payload.overflow?, same, Json.overflow?]
  cases Json.readWithin room s with
  | ok v => rfl
  | error e => cases e <;> rfl

theorem overflow?_text (s : List Char) :
    (Payload.text (String.ofList s)).overflow? room = Json.overflow? room s := by
  rw [Payload.overflow?, String.toList_ofList]

/-! ## Outcomes -/

/-- What comes of a form of an object in text: what comes of the object, unless the text overflows the
room. -/
structure IsReadAs (room : Option Nat) (fields : List (String × Json)) (s : List Char)
    (form : Payload) : Prop where
  within : Json.overflow? room s = none →
    readWithin room form = readWithin room (.decoded (.object fields))
  beyond : ∀ c, Json.overflow? room s = some c → readWithin room form = .error (.tooDeep c)

/-- The forms of an object are read alike, where there is room for their text. -/
structure IsReadAlike (room : Option Nat) (fields : List (String × Json)) : Prop where
  /-- A readable object has a text, and that overflows the room where the object does not fit. -/
  written : (Json.object fields).IsReadable →
    Json.read (Json.write (.object fields)) = .ok (.object fields) ∧
      (Json.overflow? room (Json.write (.object fields)) = none ↔
        Json.Fits room (Json.object fields).depth)
  /-- Each text of the object is read as the object is. -/
  text : ∀ s, Json.read s = .ok (.object fields) →
    IsReadAs room fields s (.text (String.ofList s))
  /-- So are the octets of the text, whatever the encoding. -/
  octets : ∀ s, Json.read s = .ok (.object fields) → ∀ e : Encoding,
    IsReadAs room fields s (.octets (e.encode s))
  /-- A mark in front of the text changes nothing. -/
  marked : ∀ s, Json.read s = .ok (.object fields) → ∀ e : Encoding,
    IsReadAs room fields s (.octets (e.encode ('\uFEFF' :: s)))

/-- What a payload holds decides what comes of it, unless it overflows the room. -/
structure IsReadByContent (room : Option Nat) (p : Payload) : Prop where
  tooDeep : ∀ c, p.overflow? room = some c → readWithin room p = .error (.tooDeep c)
  malformed : p.overflow? room = none → (∀ v, ¬ p.Holds v) →
    readWithin room p = .error (.rejected .malformed)
  notObject : p.overflow? room = none → ∀ v, p.Holds v → (∀ fields, v ≠ .object fields) →
    readWithin room p = .error (.rejected .notObject)
  noFilters : p.overflow? room = none → ∀ fields, p.Holds (.object fields) → ¬ HasFilters fields →
    readWithin room p = .error (.rejected .noFilters)
  invalid : p.overflow? room = none → ∀ fields, p.Holds (.object fields) → HasFilters fields →
    ¬ schema.Accepts (.object fields) →
    ∃ issues, schema.read (.object fields) = .error issues ∧
      readWithin room p = .error (.rejected (.invalid issues))
  /-- There is an answer exactly where the fields that are known can be read. -/
  answer : (∃ a, readWithin room p = .ok a) ↔ p.overflow? room = none ∧
    ∃ fields, p.Holds (.object fields) ∧ HasFilters fields ∧ schema.Accepts (.object fields)

/-- A form that holds an object is read as the object, or it overflows the room as its text does. -/
theorem isReadAs_of_holds {form : Payload} {s : List Char} (holds : form.Holds (.object fields))
    (overflow : form.overflow? room = Json.overflow? room s) : IsReadAs room fields s form where
  within := by
    intro within
    rw [readWithin_of_within (overflow.trans within), read_of_holds holds,
      readWithin_of_within (p := .decoded _) rfl, read_of_holds (.decoded _)]
  beyond := fun _ beyond => readWithin_of_overflow (overflow.trans beyond)

theorem isReadAlike (room : Option Nat) (fields : List (String × Json)) :
    IsReadAlike room fields where
  written readable := ⟨Json.read_write readable, Json.overflow?_write_eq_none_iff readable⟩
  text := by
    intro s found
    exact isReadAs_of_holds (.text (by rwa [String.toList_ofList])) (overflow?_text s)
  octets := by
    intro s found e
    have unbounded := (Json.readOctetsWithin_encode found none e).1
    refine isReadAs_of_holds (.octets ?_)
      (overflow?_octets (Json.readOctetsWithin_encode found room e).1)
    rw [Json.readOctets, unbounded, ← Json.read, found]
    rfl
  marked := by
    intro s found e
    have unbounded := (Json.readOctetsWithin_encode found none e).2
    refine isReadAs_of_holds (.octets ?_)
      (overflow?_octets (Json.readOctetsWithin_encode found room e).2)
    rw [Json.readOctets, unbounded, ← Json.read, found]
    rfl

theorem isReadByContent (room : Option Nat) (p : Payload) : IsReadByContent room p where
  tooDeep _ := readWithin_of_overflow
  malformed := by
    intro within nothing
    rw [readWithin_of_within within]
    obtain ⟨v, holds⟩ | failed := p.holds_or_malformed
    · exact (nothing v holds).elim
    · rw [read, failed]
      rfl
  notObject := by
    intro within v holds other
    rw [readWithin_of_within within, read_of_holds holds, ofJson_of_not_object other]
    rfl
  noFilters := by
    intro within fields holds without
    rw [readWithin_of_within within, read_of_holds holds, ofJson_of_not_hasFilters without]
    rfl
  invalid := by
    intro within fields holds filters refused
    rw [← Schema.exists_read_iff] at refused
    cases result : schema.read (.object fields) with
    | ok a => exact (refused ⟨a, result⟩).elim
    | error issues =>
      refine ⟨issues, rfl, ?_⟩
      rw [readWithin_of_within within, read_of_holds holds, ofJson_of_hasFilters filters, result]
      rfl
  answer := by
    rw [exists_readWithin_iff]
    refine and_congr_right fun _ => ?_
    simp only [← Schema.exists_read_iff]
    constructor
    · rintro ⟨a, reads⟩
      obtain ⟨v, holds⟩ | failed := p.holds_or_malformed
      · rw [read_of_holds holds] at reads
        obtain ⟨fields, rfl, filters, result⟩ := ofJson_eq_ok_iff.mp reads
        exact ⟨fields, holds, filters, a, result⟩
      · rw [read, failed] at reads
        cases reads
    · rintro ⟨fields, holds, filters, a, result⟩
      refine ⟨a, ?_⟩
      rw [read_of_holds holds]
      exact ofJson_eq_ok_iff.mpr ⟨fields, rfl, filters, result⟩

/-- With whatever room, objects are read alike in all of their forms, and every payload is read by what
it holds; but text that overflows the room breaks the reading. -/
theorem readWithin_isByContent (room : Option Nat) :
    (∀ fields, IsReadAlike room fields) ∧ ∀ p, IsReadByContent room p :=
  ⟨isReadAlike room, isReadByContent room⟩

/-- Filters by a name that is not ASCII. -/
def zoesFilters : List (String × Json) :=
  [("filters", .object [("name", .text "Zoë")]), ("model", .int 4)]

/-- The filters arrive in octets of sixteen bits behind a mark as they arrive decoded, and there is
an answer. -/
theorem zoesFilters_areRead :
    Json.read (Json.write (.object zoesFilters)) = .ok (.object zoesFilters) ∧
      readWithin Json.usualRoom
          (.octets ((Encoding.utf16 true).encode ('\uFEFF' :: Json.write (.object zoesFilters)))) =
        readWithin Json.usualRoom (.decoded (.object zoesFilters)) ∧
      ∃ a, readWithin Json.usualRoom (.decoded (.object zoesFilters)) = .ok a := by
  have outcomes := readWithin_isByContent Json.usualRoom
  have readable : (Json.object zoesFilters).IsReadable := by
    simp only [zoesFilters, Json.IsReadable, Json.AreReadableFields, and_true]
    decide
  obtain ⟨written, room⟩ := (outcomes.1 zoesFilters).written readable
  have fits : Json.Fits Json.usualRoom (Json.object zoesFilters).depth :=
    Json.fits_some.mpr (by decide)
  refine ⟨written, ((outcomes.1 zoesFilters).marked _ written _).within (room.mpr fits), ?_⟩
  refine (outcomes.2 _).answer.mpr ⟨rfl, zoesFilters, .decoded _, ⟨_, rfl⟩, ?_⟩
  exact (Schema.exists_read_iff _ _).mp ⟨_, rfl⟩

/-- A text of nested arrays is no object, yet it is not rejected for that: the reading breaks. -/
theorem nestedText_overflows : readWithin Json.usualRoom
    (.text (String.ofList (Json.nestedText 1000))) = .error (.tooDeep .array) :=
  readWithin_of_overflow
    ((overflow?_text _).trans (Json.overflow?_nestedText Json.not_fits_thousand))

end ClassifierAnswer

end ContactSearch
