/-!
# Newlines

A line may end in a line feed, in a carriage return, or in both.
-/

namespace ContactSearch.Text

/-- A text in which every line ends in a line feed. -/
def unifyNewlines : List Char → List Char
  | '\r' :: '\n' :: rest => '\n' :: unifyNewlines rest
  | '\r' :: rest => '\n' :: unifyNewlines rest
  | c :: rest => c :: unifyNewlines rest
  | [] => []

theorem not_mem_unifyNewlines (s : List Char) : '\r' ∉ unifyNewlines s := by
  fun_induction unifyNewlines s <;> simp_all [eq_comm]

end ContactSearch.Text
