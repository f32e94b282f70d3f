/-!
# Substrings
-/

namespace ContactSearch.Text

/-- The first text occurs somewhere in the second one. -/
def contains (needle : List Char) : List Char → Bool
  | [] => needle.isEmpty
  | c :: rest => needle.isPrefixOf (c :: rest) || contains needle rest

theorem contains_iff {needle s : List Char} : contains needle s = true ↔ needle <:+: s := by
  induction s with
  | nil => simp [contains]
  | cons c rest ih =>
    rw [contains, Bool.or_eq_true, ih, List.isPrefixOf_iff_prefix, List.infix_cons_iff]

@[simp] theorem contains_nil (s : List Char) : contains [] s = true := by
  cases s <;> simp [contains]

end ContactSearch.Text
