import ContactSearch.Json.Octets
import ContactSearch.Proofs.Json.Readable
import ContactSearch.Proofs.Json.Strings
import ContactSearch.Proofs.Text.Encodings

/-!
# Written values are read back

A readable value that is written on one line is read as the same value: with every string, every
number, and the fields of every object in their order. So are its octets, once it is seen how they
are encoded. A reader with some room does so exactly for the values that fit into the room.
-/

namespace ContactSearch

namespace Json

/-! ## What a written value starts with -/

/-- A text that neither a gap nor the end of an array or an object starts. -/
def StartsValue (s : List Char) : Prop :=
  ∃ c rest, s = c :: rest ∧ isGap c = false ∧ c ≠ ']' ∧ c ≠ '\x7d'

theorem StartsValue.append {s : List Char} (starts : StartsValue s) (rest : List Char) :
    StartsValue (s ++ rest) := by
  obtain ⟨c, more, rfl, other⟩ := starts
  exact ⟨c, more ++ rest, rfl, other⟩

theorem StartsValue.length_pos {s : List Char} (starts : StartsValue s) : 0 < s.length := by
  obtain ⟨c, more, rfl, -⟩ := starts
  exact Nat.succ_pos _

theorem StartsValue.skipGap {s : List Char} (starts : StartsValue s) : skipGap s = s := by
  obtain ⟨c, more, rfl, gap, -⟩ := starts
  rw [Json.skipGap, List.dropWhile_cons_of_neg (by simp [gap])]

/-- The characters that a constant or a number starts with. -/
def startsPlain (c : Char) : Bool :=
  c.isDigit || ['n', 't', 'f', 'N', 'I', '-'].contains c

theorem head_of_readPlain {s : List Char} {r : Json × List Char} (read : readPlain s = .ok r) :
    ∃ c more, s = c :: more ∧ startsPlain c = true := by
  unfold readPlain at read
  split at read
  case h_8 =>
    obtain ⟨c, more, same, digit⟩ := head_of_readUnsigned read
    exact ⟨c, more, same, by rw [startsPlain, digit, Bool.true_or]⟩
  all_goals exact ⟨_, _, rfl, by decide⟩

theorem startsValue_of_readPlain {s : List Char} {r : Json × List Char}
    (read : readPlain s = .ok r) : StartsValue s := by
  obtain ⟨c, more, rfl, plain⟩ := head_of_readPlain read
  refine ⟨c, more, rfl, ?_, ?_, ?_⟩
  · by_contra gap
    simp only [isGap, Bool.not_eq_false, Bool.or_eq_true, beq_iff_eq] at gap
    rcases gap with ((rfl | rfl) | rfl) | rfl <;> cases plain
  · rintro rfl
    cases plain
  · rintro rfl
    cases plain

/-- A written constant or number is read as itself. -/
theorem readPlain_write {v : Json} {rest : List Char} (plain : v.IsPlain) (readable : v.IsReadable)
    (ends : EndsNumber rest) : readPlain (write v ++ rest) = .ok (v, rest) := by
  cases v with
  | null => rfl
  | bool b => cases b <;> rfl
  | int n => exact readPlain_intText readable ends
  | real x => exact readPlain_number _ readable ends
  | text _ => cases plain
  | array _ => cases plain
  | object _ => cases plain

theorem startsValue_write {v : Json} (readable : v.IsReadable) : StartsValue (write v) := by
  have of_plain : v.IsPlain → StartsValue (write v) := by
    intro plain
    have read := readPlain_write plain readable endsNumber_nil
    rw [List.append_nil] at read
    exact startsValue_of_readPlain read
  cases v with
  | text s => exact ⟨'"', _, rfl, by decide, by decide, by decide⟩
  | array items => exact ⟨'[', _, by rw [write]; rfl, by decide, by decide, by decide⟩
  | object fields => exact ⟨'\x7b', _, by rw [write]; rfl, by decide, by decide, by decide⟩
  | _ => exact of_plain trivial

theorem startsValue_writeItems {v : Json} {items : List Json} (readable : v.IsReadable) :
    StartsValue (writeItems (v :: items)) := by
  have first := startsValue_write readable
  cases items with
  | nil => exact first
  | cons w items =>
    rw [writeItems, List.append_assoc]
    exact first.append _

theorem startsValue_writeString (s : String) : StartsValue (writeString s) :=
  ⟨'"', _, rfl, by decide, by decide, by decide⟩

theorem startsValue_writeFields (p : String × Json) (fields : List (String × Json)) :
    StartsValue (writeFields (p :: fields)) := by
  obtain ⟨k, v⟩ := p
  cases fields with
  | nil =>
    rw [writeFields, List.append_assoc]
    exact (startsValue_writeString k).append _
  | cons q fields =>
    rw [writeFields, List.append_assoc, List.append_assoc, List.append_assoc]
    exact (startsValue_writeString k).append _

/-! ## The steps of the reader -/

variable {room inner : Option Nat}

theorem readValue_of_readPlain {s : List Char} {r : Json × List Char} (room : Option Nat)
    (steps : Nat) (read : readPlain s = .ok r) : readValue room (steps + 1) s = .ok r := by
  obtain ⟨c, more, rfl, plain⟩ := head_of_readPlain read
  unfold readValue
  split
  case h_4 => exact read
  all_goals
    next same =>
    cases same
    cases plain

theorem readValue_text (room : Option Nat) (steps : Nat) (t : String) (rest : List Char) :
    readValue room (steps + 1) (writeString t ++ rest) = .ok (.text t, rest) := by
  rw [writeString_append, readValue, readString_writeChars]

theorem readValue_array {s rest : List Char} {items : List Json} {steps : Nat}
    (there : inside? room = some inner) (starts : StartsValue s)
    (read : readItems inner steps s = .ok (items, rest)) :
    readValue room (steps + 1) ('[' :: s) = .ok (.array items, rest) := by
  have gap := starts.skipGap
  obtain ⟨c, more, rfl, -, bracket, -⟩ := starts
  rw [readValue]
  simp only [there, gap]
  split
  · next same =>
    cases same
    exact absurd rfl bracket
  · rw [read]

theorem readValue_object {s rest : List Char} {pairs : List (String × Json)} {steps : Nat}
    (there : inside? room = some inner) (starts : StartsValue s)
    (read : readPairs inner steps s = .ok (pairs, rest)) :
    readValue room (steps + 1) ('\x7b' :: s) = .ok (.object (KeyedList.ofPairs pairs), rest) := by
  have gap := starts.skipGap
  obtain ⟨c, more, rfl, -, -, brace⟩ := starts
  rw [readValue]
  simp only [there, gap]
  split
  · next same =>
    cases same
    exact absurd rfl brace
  · rw [read]

theorem readItems_last {s rest : List Char} {v : Json} {steps : Nat}
    (read : readValue room steps s = .ok (v, ']' :: rest)) :
    readItems room (steps + 1) s = .ok ([v], rest) := by
  rw [readItems, read]
  rfl

theorem readItems_more {s t rest : List Char} {v : Json} {items : List Json} {steps : Nat}
    (read : readValue room steps s = .ok (v, ',' :: ' ' :: t)) (starts : StartsValue t)
    (later : readItems room steps t = .ok (items, rest)) :
    readItems room (steps + 1) s = .ok (v :: items, rest) := by
  have gap : skipGap (' ' :: t) = t := starts.skipGap
  have comma : skipGap (',' :: ' ' :: t) = ',' :: ' ' :: t := rfl
  rw [readItems, read]
  simp only [comma, gap, later]

theorem readKey_writeString (k : String) {s : List Char} (starts : StartsValue s) :
    readKey (writeString k ++ ':' :: ' ' :: s) = .ok (k, s) := by
  have gap : skipGap (' ' :: s) = s := starts.skipGap
  have colon : skipGap (':' :: ' ' :: s) = ':' :: ' ' :: s := rfl
  rw [writeString_append, readKey, readString_writeChars]
  simp only [colon, gap]

theorem readPairs_last {s rest : List Char} {k : String} {v : Json} {steps : Nat}
    (starts : StartsValue s) (read : readValue room steps s = .ok (v, '\x7d' :: rest)) :
    readPairs room (steps + 1) (writeString k ++ ':' :: ' ' :: s) = .ok ([(k, v)], rest) := by
  rw [readPairs, readKey_writeString k starts]
  simp only [read]
  rfl

theorem readPairs_more {s t rest : List Char} {k : String} {v : Json}
    {pairs : List (String × Json)} {steps : Nat} (starts : StartsValue s)
    (read : readValue room steps s = .ok (v, ',' :: ' ' :: t)) (starts' : StartsValue t)
    (later : readPairs room steps t = .ok (pairs, rest)) :
    readPairs room (steps + 1) (writeString k ++ ':' :: ' ' :: s) = .ok ((k, v) :: pairs, rest) := by
  have gap : skipGap (' ' :: t) = t := starts'.skipGap
  have comma : skipGap (',' :: ' ' :: t) = ',' :: ' ' :: t := rfl
  rw [readPairs, readKey_writeString k starts]
  simp only [read, comma, gap, later]

/-! ## The round trip -/

mutual

/-- A written value is read as itself where it fits into the room. -/
theorem readValue_write : ∀ (v : Json) (room : Option Nat) (steps : Nat) (rest : List Char),
    v.IsReadable → Fits room v.depth → 2 * (write v).length ≤ steps → EndsNumber rest →
    readValue room steps (write v ++ rest) = .ok (v, rest)
  | v, _, 0, _, readable, _, enough, _ => by
    have pos := (startsValue_write readable).length_pos
    omega
  | .text t, room, steps + 1, rest, _, _, _, _ => readValue_text room steps t rest
  | .array [], room, steps + 1, rest, _, fits, _, _ => by
    obtain ⟨inner, there, -⟩ := fits_succ_iff.mp fits
    show readValue room (steps + 1) ('[' :: ']' :: rest) = _
    rw [readValue]
    simp only [there]
    rfl
  | .array (v :: items), room, steps + 1, rest, readable, fits, enough, _ => by
    have text : write (.array (v :: items)) ++ rest =
        '[' :: (writeItems (v :: items) ++ ']' :: rest) := by
      rw [write]
      simp
    have length : (write (.array (v :: items))).length = (writeItems (v :: items)).length + 2 := by
      rw [write]
      simp
    obtain ⟨inner, there, within⟩ := fits_succ_iff.mp fits
    rw [IsReadable] at readable
    rw [text]
    exact readValue_array there ((startsValue_writeItems readable.1).append _)
      (readItems_write v items inner steps rest readable within (by omega))
  | .object [], room, steps + 1, rest, _, fits, _, _ => by
    obtain ⟨inner, there, -⟩ := fits_succ_iff.mp fits
    show readValue room (steps + 1) ('\x7b' :: '\x7d' :: rest) = _
    rw [readValue]
    simp only [there]
    rfl
  | .object (p :: fields), room, steps + 1, rest, readable, fits, enough, _ => by
    have text : write (.object (p :: fields)) ++ rest =
        '\x7b' :: (writeFields (p :: fields) ++ '\x7d' :: rest) := by
      rw [write]
      simp
    have length : (write (.object (p :: fields))).length =
        (writeFields (p :: fields)).length + 2 := by
      rw [write]
      simp
    obtain ⟨inner, there, within⟩ := fits_succ_iff.mp fits
    rw [IsReadable] at readable
    have read := readValue_object there ((startsValue_writeFields p fields).append _)
      (readPairs_write p fields inner steps rest readable.2 within (by omega))
    rwa [KeyedList.ofPairs_of_nodup readable.1, ← text] at read
  | .null, room, steps + 1, rest, readable, _, _, ends =>
    readValue_of_readPlain room steps (readPlain_write trivial readable ends)
  | .bool _, room, steps + 1, rest, readable, _, _, ends =>
    readValue_of_readPlain room steps (readPlain_write trivial readable ends)
  | .int _, room, steps + 1, rest, readable, _, _, ends =>
    readValue_of_readPlain room steps (readPlain_write trivial readable ends)
  | .real _, room, steps + 1, rest, readable, _, _, ends =>
    readValue_of_readPlain room steps (readPlain_write trivial readable ends)

/-- Written items are read as they are. -/
theorem readItems_write : ∀ (v : Json) (items : List Json) (room : Option Nat) (steps : Nat)
    (rest : List Char), AreReadable (v :: items) → Fits room (depthOf (v :: items)) →
    2 * (writeItems (v :: items)).length + 1 ≤ steps →
    readItems room steps (writeItems (v :: items) ++ ']' :: rest) = .ok (v :: items, rest)
  | v, [], room, steps + 1, rest, readable, fits, enough =>
    readItems_last (readValue_write v room steps (']' :: rest) readable.1 (fits_max.mp fits).1
      (by rw [writeItems] at enough; omega) (endsNumber_cons (by decide) rest))
  | v, w :: items, room, steps + 1, rest, readable, fits, enough => by
    have text : writeItems (v :: w :: items) ++ ']' :: rest =
        write v ++ ',' :: ' ' :: (writeItems (w :: items) ++ ']' :: rest) := by
      rw [writeItems]
      simp
    have length : (writeItems (v :: w :: items)).length =
        (write v).length + 2 + (writeItems (w :: items)).length := by
      rw [writeItems]
      simp only [List.length_append, List.length_cons, List.length_nil]
    obtain ⟨first, more⟩ := fits_max.mp fits
    rw [text]
    exact readItems_more
      (readValue_write v room steps _ readable.1 first (by omega) (endsNumber_cons (by decide) _))
      ((startsValue_writeItems readable.2.1).append _)
      (readItems_write w items room steps rest readable.2 more (by omega))

/-- Written fields are read as they are. -/
theorem readPairs_write : ∀ (p : String × Json) (fields : List (String × Json))
    (room : Option Nat) (steps : Nat) (rest : List Char), AreReadableFields (p :: fields) →
    Fits room (depthOfFields (p :: fields)) →
    2 * (writeFields (p :: fields)).length + 1 ≤ steps →
    readPairs room steps (writeFields (p :: fields) ++ '\x7d' :: rest) = .ok (p :: fields, rest)
  | (k, v), [], room, steps + 1, rest, readable, fits, enough => by
    have text : writeFields [(k, v)] ++ '\x7d' :: rest =
        writeString k ++ ':' :: ' ' :: (write v ++ '\x7d' :: rest) := by
      rw [writeFields]
      simp
    have length : (writeFields [(k, v)]).length =
        (writeString k).length + 2 + (write v).length := by
      rw [writeFields]
      simp only [List.length_append, List.length_cons, List.length_nil]
    rw [text]
    exact readPairs_last ((startsValue_write readable.1).append _)
      (readValue_write v room steps _ readable.1 (fits_max.mp fits).1 (by omega)
        (endsNumber_cons (by decide) rest))
  | (k, v), q :: fields, room, steps + 1, rest, readable, fits, enough => by
    have text : writeFields ((k, v) :: q :: fields) ++ '\x7d' :: rest =
        writeString k ++ ':' :: ' ' ::
          (write v ++ ',' :: ' ' :: (writeFields (q :: fields) ++ '\x7d' :: rest)) := by
      rw [writeFields]
      simp
    have length : (writeFields ((k, v) :: q :: fields)).length =
        (writeString k).length + 2 + (write v).length + 2 + (writeFields (q :: fields)).length := by
      rw [writeFields]
      simp only [List.length_append, List.length_cons, List.length_nil]
    obtain ⟨first, more⟩ := fits_max.mp fits
    rw [text]
    exact readPairs_more ((startsValue_write readable.1).append _)
      (readValue_write v room steps _ readable.1 first (by omega) (endsNumber_cons (by decide) _))
      ((startsValue_writeFields q fields).append _)
      (readPairs_write q fields room steps rest readable.2 more (by omega))

end

/-- The text of a readable value holds that value, where there is room for it. -/
theorem readWithin_write {v : Json} (readable : v.IsReadable) (fits : Fits room v.depth) :
    readWithin room (write v) = .ok v := by
  have starts := startsValue_write readable
  have value := readValue_write v room (2 * (write v).length + 2) [] readable fits (by omega)
    endsNumber_nil
  rw [List.append_nil] at value
  rw [readWithin, starts.skipGap, value]
  rfl

/-- The text of a readable value holds that value. -/
theorem read_write {v : Json} (readable : v.IsReadable) : read (write v) = .ok v :=
  readWithin_write readable fits_none

/-- The text of a readable value overflows exactly the rooms that the value does not fit into. -/
theorem overflow?_write_eq_none_iff {v : Json} (readable : v.IsReadable) :
    overflow? room (write v) = none ↔ Fits room v.depth := by
  constructor
  · intro within
    have same := readWithin_of_overflow?_eq_none within
    rw [read_write readable] at same
    exact fits_of_readWithin same
  · intro fits
    rw [overflow?, readWithin_write readable fits]

/-- Octets whose encoding is seen hold what their text holds. -/
theorem readOctetsWithin_of_detect {octets : Text.Octets} {e : Text.Encoding} {s : List Char}
    (seen : detect octets = (e, e.encode s)) :
    readOctetsWithin room octets = (readWithin room s).mapError .unreadable := by
  rw [readOctetsWithin, seen]
  simp only [Text.Encoding.decode?_encode]
  cases readWithin room s <;> rfl

/-- Octets whose encoding is seen are torn where their text is, by its escapes. -/
theorem areTorn_of_detect {octets : Text.Octets} {e : Text.Encoding} {s : List Char}
    (seen : detect octets = (e, e.encode s)) : areTorn octets = isTorn s := by
  rw [areTorn, seen]
  simp only [Text.Encoding.isTorn_encode, Text.Encoding.decode?_encode, Option.any_some,
    Bool.false_or]

/-- The octets of a readable value hold that value, if their encoding is seen and there is room. -/
theorem readOctetsWithin_write {v : Json} (readable : v.IsReadable) (fits : Fits room v.depth)
    (seen : detect (Text.Encoding.utf8.encode (write v)) =
      (.utf8, Text.Encoding.utf8.encode (write v))) :
    readOctetsWithin room (Text.Encoding.utf8.encode (write v)) = .ok v := by
  rw [readOctetsWithin_of_detect seen, readWithin_write readable fits]
  rfl

end Json

end ContactSearch
