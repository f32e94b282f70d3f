import ContactSearch.Json.Reader
import ContactSearch.Json.Writer
import ContactSearch.Proofs.Text.Unit

/-!
# Written strings are read back

Every character is escaped in a way that the reader undoes, so a written string is read as itself.
-/

namespace ContactSearch

open Text

namespace Json

theorem hexDigit?_hexChar {n : Nat} (small : n < 16) : hexDigit? (hexChar n) = some n := by
  have every : ∀ n : Fin 16, hexDigit? (hexChar n) = some n.val := by decide
  exact every ⟨n, small⟩

theorem hex4?_escape {n : Nat} (small : n < 0x10000) :
    hex4? (hexChar (n / 0x1000 % 16)) (hexChar (n / 0x100 % 16)) (hexChar (n / 0x10 % 16))
      (hexChar (n % 16)) = some n := by
  have value : (((n / 0x1000 % 16) * 16 + n / 0x100 % 16) * 16 + n / 0x10 % 16) * 16 + n % 16 =
      n := by
    omega
  rw [hex4?, hexDigit?_hexChar (Nat.mod_lt _ (by decide)),
    hexDigit?_hexChar (Nat.mod_lt _ (by decide)), hexDigit?_hexChar (Nat.mod_lt _ (by decide)),
    hexDigit?_hexChar (Nat.mod_lt _ (by decide))]
  exact congrArg some value

/-- What the reader finds when these codes stand in front. -/
def withCodes (codes : List Nat) (found : Option (List Nat × List Char)) :
    Option (List Nat × List Char) :=
  found.map fun p => (codes ++ p.1, p.2)

theorem stringCodes?_escapeUnit {n : Nat} (small : n < 0x10000) (s : List Char) :
    stringCodes? (escapeUnit n ++ s) = withCodes [n] (stringCodes? s) := by
  rw [escapeUnit, List.cons_append, List.cons_append, List.cons_append, List.cons_append,
    List.cons_append, List.cons_append, List.nil_append, stringCodes?, hex4?_escape small]
  cases stringCodes? s <;> rfl

theorem stringCodes?_escapeUnits {units : List Nat} (small : ∀ u ∈ units, u < 0x10000)
    (s : List Char) :
    stringCodes? (units.flatMap escapeUnit ++ s) = withCodes units (stringCodes? s) := by
  induction units with
  | nil => cases found : stringCodes? s <;> simp [withCodes, found]
  | cons u units ih =>
    rw [List.flatMap_cons, List.append_assoc, stringCodes?_escapeUnit (small u List.mem_cons_self),
      ih fun v member => small v (List.mem_cons_of_mem _ member)]
    cases stringCodes? s <;> rfl

/-- A character that stands for itself. -/
theorem stringCodes?_plain {c : Char} (quote : c ≠ '"') (backslash : c ≠ '\\')
    (printable : 0x20 ≤ c.toNat) (s : List Char) :
    stringCodes? (c :: s) = withCodes [c.toNat] (stringCodes? s) := by
  rw [stringCodes?]
  · rw [if_neg (Nat.not_lt.mpr printable)]
    cases stringCodes? s <;> rfl
  · exact quote
  · rintro a b d e rest rfl
    exact absurd rfl backslash
  · rintro d rest rfl
    exact absurd rfl backslash

/-- A written character is read as its units. -/
theorem stringCodes?_writeChar (c : Char) (s : List Char) :
    stringCodes? (writeChar c ++ s) = withCodes (splitUnits c.toNat) (stringCodes? s) := by
  unfold writeChar
  split
  all_goals try (cases found : stringCodes? s <;> simp [stringCodes?, escape?, found] <;> rfl)
  next quote backslash _ _ _ _ _ =>
    split
    · next printable =>
      rw [List.singleton_append, splitUnits_of_lt (by omega)]
      exact stringCodes?_plain quote backslash printable.1 s
    · exact stringCodes?_escapeUnits (fun u => lt_of_mem_splitUnits (toNat_lt c)) s

theorem stringCodes?_writeChars (t rest : List Char) :
    stringCodes? (t.flatMap writeChar ++ '"' :: rest) =
      some (t.flatMap (fun c => splitUnits c.toNat), rest) := by
  induction t with
  | nil => rfl
  | cons c t ih =>
    rw [List.flatMap_cons, List.append_assoc, stringCodes?_writeChar, ih]
    rfl

/-- A written string is read as itself. -/
theorem readString_writeChars (s : String) (rest : List Char) :
    readString (s.toList.flatMap writeChar ++ '"' :: rest) = .ok (s, rest) := by
  rw [readString, stringCodes?_writeChars]
  simp only [joinUnits_splitUnits, String.ofList_toList]

theorem writeString_append (s : String) (rest : List Char) :
    writeString s ++ rest = '"' :: (s.toList.flatMap writeChar ++ '"' :: rest) := by
  simp [writeString]

end Json

end ContactSearch
