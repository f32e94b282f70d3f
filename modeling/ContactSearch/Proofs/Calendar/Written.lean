import ContactSearch.Calendar.Written
import ContactSearch.Proofs.Json.Numeral
import ContactSearch.Proofs.Text.Numeral

/-!
# Written timestamps are read back

The written form has parts of fixed width, each followed by a character that is no digit. The reader
takes the parts one after another and gives back the timestamp, to the microsecond and with its
offset, or without one.
-/

namespace ContactSearch.Calendar

open Json (EndsDigits IsDigits digitsValue)
open Text

/-! ## Numbers of fixed width -/

/-- A run of so many digits that stands for a number. -/
structure IsPart (width n : Nat) (ds : List Char) : Prop where
  length : ds.length = width
  digits : ∀ c ∈ ds, c.isDigit = true
  value : digitsValue ds = n

theorem isPart_paddedText {width n : Nat} (pos : 0 < width) (small : n < 10 ^ width) :
    IsPart width n (paddedText width n) := by
  refine ⟨?_, ?_, ?_⟩
  · have fits := (length_natText_le_iff pos).mpr small
    rw [paddedText, NumberFormat.padded, List.length_append, List.length_replicate]
    omega
  · exact (Json.isDigits_padded width (Json.isDigits_natText n)).digits
  · rw [paddedText, Json.digitsValue_padded, digitsValue_natText]

theorem twoDigits?_append {n : Nat} {ds : List Char} (part : IsPart 2 n ds) (rest : List Char) :
    twoDigits? (ds ++ rest) = some (n, rest) := by
  obtain ⟨a, b, rfl⟩ := List.length_eq_two.mp part.length
  have first := asciiDigit?_of_isDigit (part.digits a (by simp))
  have second := asciiDigit?_of_isDigit (part.digits b (by simp))
  rw [← part.value]
  simp [twoDigits?, first, second, digitsValue, ofDigits]

theorem fourDigits?_append {n : Nat} {ds : List Char} (part : IsPart 4 n ds) (rest : List Char) :
    fourDigits? (ds ++ rest) = some (n, rest) := by
  have high : IsPart 2 (digitsValue (ds.take 2)) (ds.take 2) := by
    refine ⟨?_, fun c member => part.digits c (List.mem_of_mem_take member), rfl⟩
    rw [List.length_take, part.length]
    rfl
  have low : IsPart 2 (digitsValue (ds.drop 2)) (ds.drop 2) := by
    refine ⟨?_, fun c member => part.digits c (List.mem_of_mem_drop member), rfl⟩
    rw [List.length_drop, part.length]
  have value : 100 * digitsValue (ds.take 2) + digitsValue (ds.drop 2) = n := by
    have halves := digitsValue_append (ds.take 2) (ds.drop 2)
    rw [List.take_append_drop, part.value, low.length] at halves
    omega
  have text : ds ++ rest = ds.take 2 ++ (ds.drop 2 ++ rest) := by
    rw [← List.append_assoc, List.take_append_drop]
  rw [fourDigits?, text, twoDigits?_append high]
  simp only [Option.bind_eq_bind, Option.bind_some, twoDigits?_append low, value, pure]

@[simp] theorem skip?_cons (c : Char) (rest : List Char) : skip? c (c :: rest) = some rest := by
  simp [skip?]

/-! ## Dates -/

namespace Date

theorem read?_write (d : Date) (rest : List Char) : read? (d.write ++ rest) = some (d, rest) := by
  obtain ⟨-, years, -, months, -, days⟩ := d.isDate
  have year : IsPart 4 d.year (paddedText 4 d.year) := isPart_paddedText (by decide) (by omega)
  have month : IsPart 2 d.month (paddedText 2 d.month) := isPart_paddedText (by decide) (by omega)
  have longest : daysInMonth d.year d.month ≤ 31 := by
    unfold daysInMonth
    split_ifs <;> decide
  have day : IsPart 2 d.day (paddedText 2 d.day) := isPart_paddedText (by decide) (by omega)
  have text : d.write ++ rest = paddedText 4 d.year ++ '-' :: (paddedText 2 d.month ++
      '-' :: (paddedText 2 d.day ++ rest)) := by
    simp [write]
  rw [text, read?]
  simp [fourDigits?_append year, twoDigits?_append month, twoDigits?_append day, make?_self]

end Date

/-! ## Times -/

/-- Starts with nothing that could go on with a time. -/
structure EndsTime (rest : List Char) : Prop where
  digits : EndsDigits rest
  point : rest.head? ≠ some '.'
  comma : rest.head? ≠ some ','

theorem splitDigits_append {ds rest : List Char} (digits : ∀ c ∈ ds, c.isDigit = true)
    (ends : EndsDigits rest) : splitDigits (ds ++ rest) = (ds.map fun c => c.toNat - 48, rest) := by
  induction ds with
  | nil =>
    cases rest with
    | nil => rfl
    | cons c rest =>
      have other : asciiDigit? c = none := by
        cases found : asciiDigit? c with
        | none => rfl
        | some d =>
          have digit := (asciiDigit?_eq_some_iff.mp found).1
          rw [ends c rfl] at digit
          cases digit
      simp [splitDigits, other]
  | cons c ds ih =>
    obtain ⟨digit, digits⟩ := List.forall_mem_cons.mp digits
    rw [List.cons_append, splitDigits, asciiDigit?_of_isDigit digit]
    simp [ih digits]

theorem decimals?_append {n : Nat} {ds rest : List Char} (part : IsPart 6 n ds)
    (ends : EndsTime rest) : decimals? ('.' :: (ds ++ rest)) = some (n, rest) := by
  have some : ds ≠ [] := by
    rintro rfl
    cases part.length
  have exact : microsOfDecimals (ds.map fun c => c.toNat - 48) = n := by
    rw [microsOfDecimals, List.length_map, part.length, List.take_of_length_le]
    · simpa [digitsValue] using part.value
    · rw [List.length_map, part.length]
  simp [decimals?, splitDigits_append part.digits ends.digits, some, exact]

theorem decimals?_of_ends {rest : List Char} (ends : EndsTime rest) :
    decimals? rest = some (0, rest) := by
  cases rest with
  | nil => rfl
  | cons c rest =>
    have point : c ≠ '.' := by
      rintro rfl
      exact ends.point rfl
    have comma : c ≠ ',' := by
      rintro rfl
      exact ends.comma rfl
    simp [decimals?, point, comma]

namespace Time

theorem read?_write (t : Time) {rest : List Char} (ends : EndsTime rest) :
    read? (t.write ++ rest) = some (t, rest) := by
  obtain ⟨hours, minutes, seconds, micros⟩ := t.isTime
  have hour : IsPart 2 t.hour (paddedText 2 t.hour) := isPart_paddedText (by decide) (by omega)
  have minute : IsPart 2 t.minute (paddedText 2 t.minute) :=
    isPart_paddedText (by decide) (by omega)
  have second : IsPart 2 t.second (paddedText 2 t.second) :=
    isPart_paddedText (by decide) (by omega)
  have micro : IsPart 6 t.micro (paddedText 6 t.micro) := isPart_paddedText (by decide) micros
  have decimals : decimals? ((if t.micro = 0 then [] else '.' :: paddedText 6 t.micro) ++ rest) =
      some (t.micro, rest) := by
    by_cases full : t.micro = 0
    · rw [if_pos full, full]
      exact decimals?_of_ends ends
    · rw [if_neg full]
      exact decimals?_append micro ends
  have text : t.write ++ rest = paddedText 2 t.hour ++ ':' :: (paddedText 2 t.minute ++
      ':' :: (paddedText 2 t.second ++
        ((if t.micro = 0 then [] else '.' :: paddedText 6 t.micro) ++ rest))) := by
    simp [write]
  rw [text, read?]
  simp [twoDigits?_append hour, twoDigits?_append minute, twoDigits?_append second, decimals,
    make?_self]

end Time

/-! ## Offsets -/

namespace Offset

theorem readMinutes?_append {minutes : Nat} (small : minutes < 1440) :
    readMinutes? (paddedText 2 (minutes / 60) ++ ':' :: paddedText 2 (minutes % 60)) =
      some minutes := by
  have hour : IsPart 2 (minutes / 60) (paddedText 2 (minutes / 60)) :=
    isPart_paddedText (by decide) (by omega)
  have minute : IsPart 2 (minutes % 60) (paddedText 2 (minutes % 60)) :=
    isPart_paddedText (by decide) (by omega)
  have last := twoDigits?_append minute []
  rw [List.append_nil] at last
  have below : minutes % 60 < 60 := Nat.mod_lt minutes (by decide)
  have whole : 60 * (minutes / 60) + minutes % 60 = minutes := Nat.div_add_mod minutes 60
  simp [readMinutes?, twoDigits?_append hour, last, below, whole]

theorem read?_write (o : Offset) : read? o.write = some (some o) := by
  unfold write
  by_cases zero : o.minutes = 0
  · have same : o = utc := by
      cases o
      cases zero
      rfl
    rw [if_pos zero, same]
    rfl
  · rw [if_neg zero]
    by_cases west : o.minutes < 0
    · have negated : -(o.minutes.natAbs : Int) = o.minutes := by omega
      rw [if_pos west]
      show (readMinutes? (_ ++ ':' :: _) >>= fun n => make? (-n) >>= fun o => pure (some o)) = _
      rw [readMinutes?_append o.isSmall, Option.bind_eq_bind, Option.bind_some, negated, make?_self]
      rfl
    · have kept : (o.minutes.natAbs : Int) = o.minutes := by omega
      rw [if_neg west]
      show (readMinutes? (_ ++ ':' :: _) >>= fun n => make? n >>= fun o => pure (some o)) = _
      rw [readMinutes?_append o.isSmall, Option.bind_eq_bind, Option.bind_some, kept, make?_self]
      rfl

theorem endsTime_write (o : Option Offset) : EndsTime (o.elim [] write) := by
  have head : ∀ c, (o.elim [] write).head? = some c → c = 'Z' ∨ c = '-' ∨ c = '+' := by
    intro c first
    cases o with
    | none => cases first
    | some o =>
      rw [Option.elim_some, write] at first
      split_ifs at first
      all_goals
        cases first
        decide
  refine ⟨?_, ?_, ?_⟩
  · intro c first
    rcases head c first with rfl | rfl | rfl <;> decide
  · intro first
    rcases head '.' first with same | same | same <;> cases same
  · intro first
    rcases head ',' first with same | same | same <;> cases same

end Offset

/-! ## Timestamps -/

namespace Timestamp

/-- A written timestamp is read as itself. -/
theorem read?_write (t : Timestamp) : read? t.write = some t := by
  have time := t.time.read?_write (Offset.endsTime_write t.offset)
  have offset : Offset.read? (t.offset.elim [] Offset.write) = some t.offset := by
    cases t.offset with
    | none => rfl
    | some o => exact o.read?_write
  have calendar : readCalendar? t.write = some t := by
    rw [readCalendar?, write, List.append_assoc, List.cons_append, Date.read?_write]
    simp [time, offset]
  rw [read?, calendar]

end Timestamp

end ContactSearch.Calendar
