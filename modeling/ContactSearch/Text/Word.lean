import ContactSearch.Text.Ranges
import ContactSearch.Text.WordTable

/-!
# Word characters

A word is a maximal run of letters, digits, other numbers and underscores.
-/

namespace ContactSearch.Text

/-- Letters, digits and other numbers of any script, and the underscore. -/
def isWordChar (c : Char) : Bool :=
  if c.toNat < 128 then c.isAlphanum || c == '_' else inRanges wordRanges c.toNat

/-- A word boundary lies between two characters of which one alone belongs to a word; the ends
of the text count as characters outside every word. -/
def isBoundary (left right : Option Char) : Bool :=
  left.any isWordChar != right.any isWordChar

theorem isWordChar_of_isAlphanum {c : Char} (h : c.isAlphanum = true) (ascii : c.toNat < 128) :
    isWordChar c = true := by
  simp [isWordChar, ascii, h]

end ContactSearch.Text
