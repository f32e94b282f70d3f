import ContactSearch.Text.CaseTable
import ContactSearch.Text.Ranges

/-!
# Letter case

Two ways of ignoring case live side by side. `lower` writes a text in lower case, with the two
mappings that are not one letter for one letter: a capital I with a dot becomes two characters,
and a capital sigma becomes the final form at the end of a word. `fold` sends a character to the
representative of its class, so that two characters are equal ignoring case when their folds are.
-/

namespace ContactSearch.Text

/-- The distance from a capital beyond ASCII to its lower-case form, zero for anything else. -/
def lowerShift (n : Nat) : Int :=
  match caseRuns.find? fun r => r.first ≤ n && n ≤ r.last && (n - r.first) % r.step == 0 with
  | some r => r.shift
  | none => 0

/-- The lower-case form of a single character. -/
def lowerChar (c : Char) : Char :=
  if c.toNat < 128 then c.toLower else Char.ofNat (c.toNat + lowerShift c.toNat).toNat

/-- The representative of the characters that equal this one when case is ignored. -/
def fold (c : Char) : Char :=
  let l := lowerChar c
  if l.toNat < 128 then l
  else match foldPairs.lookup l.toNat with
    | some n => Char.ofNat n
    | none => l

/-- Letters that are written in upper or lower case. -/
def isCased (c : Char) : Bool :=
  if c.toNat < 128 then c.isAlpha else inRanges casedRanges c.toNat

/-- Characters that are passed over when the case of a neighbour is asked for. -/
def isCaseIgnorable (c : Char) : Bool :=
  let n := c.toNat
  if n < 128 then n == 0x27 || n == 0x2E || n == 0x3A || n == 0x5E || n == 0x60
  else inRanges caseIgnorableRanges n

/-- The nearest character that is not passed over has a case. -/
def startsCased (s : List Char) : Bool :=
  (s.dropWhile isCaseIgnorable).head?.any isCased

/-- The lower-case form of a character between the text before it, nearest character first, and
the text after it. -/
def lowerAt (before : List Char) (c : Char) (after : List Char) : List Char :=
  if c == 'Σ' then
    if startsCased before && !startsCased after then ['ς'] else ['σ']
  else if c == 'İ' then ['i', '\u0307']
  else [lowerChar c]

/-- Lower case of a text that stands after `before`, which is given nearest character first. -/
def lowerFrom (before : List Char) : List Char → List Char
  | [] => []
  | c :: rest => lowerAt before c rest ++ lowerFrom (c :: before) rest

/-- A text in lower case. -/
def lower (s : List Char) : List Char :=
  lowerFrom [] s

@[simp] theorem lower_nil : lower [] = [] := rfl

theorem lowerAt_ne_nil (before : List Char) (c : Char) (after : List Char) :
    lowerAt before c after ≠ [] := by
  unfold lowerAt
  split
  · split <;> exact List.cons_ne_nil _ _
  · split <;> exact List.cons_ne_nil _ _

/-- Only the empty text is empty in lower case. -/
theorem lower_eq_nil_iff {s : List Char} : lower s = [] ↔ s = [] := by
  cases s with
  | nil => simp
  | cons c rest => simp [lower, lowerFrom, lowerAt_ne_nil]

end ContactSearch.Text

/-- A string in lower case, character by character. -/
def String.lowered (s : String) : List Char :=
  ContactSearch.Text.lower s.toList
