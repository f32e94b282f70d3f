import ContactSearch.Proofs.Text.Utf8

/-!
# Texts in any encoding

In each of the encodings the octets of a text are decoded to that text. The wider encodings take the
octets of a unit in either order; what is read back is the same.
-/

namespace ContactSearch.Text

namespace Encoding

/-! ## Wide units -/

theorem wide_two (big : Bool) (n : Nat) : wide big 2 n =
    if big then [UInt8.ofNat (n / 0x100 % 0x100), UInt8.ofNat (n % 0x100)]
    else [UInt8.ofNat (n % 0x100), UInt8.ofNat (n / 0x100 % 0x100)] := by
  cases big <;> simp [wide, List.range, List.range.loop]

theorem wide_four (big : Bool) (n : Nat) : wide big 4 n =
    if big then [UInt8.ofNat (n / 0x1000000 % 0x100), UInt8.ofNat (n / 0x10000 % 0x100),
      UInt8.ofNat (n / 0x100 % 0x100), UInt8.ofNat (n % 0x100)]
    else [UInt8.ofNat (n % 0x100), UInt8.ofNat (n / 0x100 % 0x100),
      UInt8.ofNat (n / 0x10000 % 0x100), UInt8.ofNat (n / 0x1000000 % 0x100)] := by
  cases big <;> simp [wide, List.range, List.range.loop]

theorem toNat_rest (n : Nat) : (UInt8.ofNat (n % 0x100)).toNat = n % 0x100 :=
  toNat_octet (Nat.mod_lt n (by decide))

/-- A unit of two octets in front is read first. -/
theorem units16?_append {n : Nat} (big : Bool) (small : n < 0x10000) (rest : Octets) :
    units16? big (wide big 2 n ++ rest) = withCode n (units16? big rest) := by
  have value : n / 0x100 % 0x100 * 256 + n % 0x100 = n := by omega
  rw [wide_two]
  cases big
  · simp only [Bool.false_eq_true, if_false, List.cons_append, List.nil_append, units16?,
      toNat_rest, value, withCode]
  · simp only [if_true, List.cons_append, List.nil_append, units16?, toNat_rest, value, withCode]

/-- A unit of four octets in front is read first. -/
theorem codes32?_append {n : Nat} (big : Bool) (valid : n < 0x110000) (rest : Octets) :
    codes32? big (wide big 4 n ++ rest) = withCode n (codes32? big rest) := by
  have value : ((n / 0x1000000 % 0x100 * 256 + n / 0x10000 % 0x100) * 256 +
      n / 0x100 % 0x100) * 256 + n % 0x100 = n := by
    omega
  have fits : ¬ 0x10FFFF < n := by omega
  rw [wide_four]
  cases big
  · simp only [Bool.false_eq_true, if_false, List.cons_append, List.nil_append, codes32?,
      toNat_rest, value, if_neg fits, withCode]
  · simp only [if_true, List.cons_append, List.nil_append, codes32?, toNat_rest, value, if_neg fits,
      withCode]

theorem units16?_flatMap {units : List Nat} (big : Bool) (small : ∀ u ∈ units, u < 0x10000) :
    units16? big (units.flatMap (wide big 2)) = some units := by
  induction units with
  | nil => rfl
  | cons u units ih =>
    rw [List.flatMap_cons, units16?_append big (small u List.mem_cons_self),
      ih fun v member => small v (List.mem_cons_of_mem u member)]
    rfl

theorem codes32?_flatMap {codes : List Nat} (big : Bool) (valid : ∀ n ∈ codes, n < 0x110000) :
    codes32? big (codes.flatMap (wide big 4)) = some codes := by
  induction codes with
  | nil => rfl
  | cons n codes ih =>
    rw [List.flatMap_cons, codes32?_append big (valid n List.mem_cons_self),
      ih fun m member => valid m (List.mem_cons_of_mem n member)]
    rfl

/-! ## Texts -/

theorem units16?_encode (big : Bool) (s : List Char) :
    units16? big ((utf16 big).encode s) = some (s.flatMap fun c => splitUnits c.toNat) := by
  have small : ∀ u ∈ s.flatMap fun c => splitUnits c.toNat, u < 0x10000 := by
    intro u member
    obtain ⟨c, -, unit⟩ := List.mem_flatMap.mp member
    exact lt_of_mem_splitUnits (toNat_lt c) unit
  have units := units16?_flatMap big small
  rwa [List.flatMap_assoc] at units

theorem codes32?_encode (big : Bool) (s : List Char) :
    codes32? big ((utf32 big).encode s) = some (s.map Char.toNat) := by
  have valid : ∀ n ∈ s.map Char.toNat, n < 0x110000 := by
    intro n member
    obtain ⟨c, -, rfl⟩ := List.mem_map.mp member
    exact toNat_lt c
  have codes := codes32?_flatMap big valid
  rwa [List.flatMap_map] at codes

theorem decode?_encode_utf16 (big : Bool) (s : List Char) :
    (utf16 big).decode? ((utf16 big).encode s) = some s := by
  rw [decode?, units16?_encode, Option.map_some, joinUnits_splitUnits]

theorem decode?_encode_utf32 (big : Bool) (s : List Char) :
    (utf32 big).decode? ((utf32 big).encode s) = some s := by
  rw [decode?, codes32?_encode, Option.map_some, List.map_map]
  refine congrArg some ?_
  exact (List.map_congr_left fun c _ => ofCode_toNat c).trans (List.map_id s)

/-- What is written in an encoding is read in it. -/
theorem decode?_encode (e : Encoding) (s : List Char) : e.decode? (e.encode s) = some s := by
  cases e with
  | utf8 => exact decode?_encode_utf8 s
  | utf16 big => exact decode?_encode_utf16 big s
  | utf32 big => exact decode?_encode_utf32 big s

/-- The octets of a text are not torn. -/
theorem isTorn_encode (e : Encoding) (s : List Char) : e.isTorn (e.encode s) = false := by
  cases e with
  | utf8 => rw [isTorn, utf8Codes?_encode, Option.any_some, any_isSurrogate_toNat]
  | utf16 big => rw [isTorn, units16?_encode, Option.any_some, hasLone_splitUnits]
  | utf32 big => rw [isTorn, codes32?_encode, Option.any_some, any_isSurrogate_toNat]

end Encoding

end ContactSearch.Text
