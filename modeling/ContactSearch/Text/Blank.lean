/-!
# Blanks

White space as Unicode defines it, and the slightly wider class of blanks that search text is
trimmed of: the four information separators count as well.
-/

namespace ContactSearch.Text

/-- White space: the characters that have the Unicode property of that name. -/
def isSpace (c : Char) : Bool :=
  let n := c.toNat
  (9 ≤ n && n ≤ 13) || n == 0x20 || n == 0x85 || n == 0xA0 || n == 0x1680 ||
    (0x2000 ≤ n && n ≤ 0x200A) || n == 0x2028 || n == 0x2029 || n == 0x202F || n == 0x205F ||
    n == 0x3000

/-- A blank is white space or one of the information separators U+001C to U+001F. -/
def isBlank (c : Char) : Bool :=
  isSpace c || (0x1C ≤ c.toNat && c.toNat ≤ 0x1F)

/-- Drops the characters of a class from both ends. -/
def trimBy (p : Char → Bool) (s : List Char) : List Char :=
  ((s.dropWhile p).reverse.dropWhile p).reverse

/-- Drops the blanks from both ends. -/
def trim (s : List Char) : List Char :=
  trimBy isBlank s

/-- Writes each run of blanks as one space. The flag says that the last character written
was a blank. -/
def squeezeFrom : Bool → List Char → List Char
  | _, [] => []
  | afterBlank, c :: rest =>
    if isBlank c then
      if afterBlank then squeezeFrom true rest else ' ' :: squeezeFrom true rest
    else c :: squeezeFrom false rest

/-- Writes each run of blanks as one space. -/
def squeeze (s : List Char) : List Char :=
  squeezeFrom false s

theorem isBlank_of_isSpace {c : Char} (h : isSpace c = true) : isBlank c = true := by
  simp [isBlank, h]

theorem isBlank_space : isBlank ' ' = true := by decide

@[simp] theorem trim_nil : trim [] = [] := rfl

@[simp] theorem squeeze_nil : squeeze [] = [] := rfl

end ContactSearch.Text
