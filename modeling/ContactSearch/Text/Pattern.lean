import ContactSearch.Text.Blank
import ContactSearch.Text.Case
import ContactSearch.Text.Word

/-!
# Patterns

The small language in which queries are searched: literals that ignore case, runs of blanks, word
boundaries, sequence and choice. A pattern lists the places where it can end, the preferred one
first, so the first answer of a sequence is the one that backtracking would find. `find?` takes
the leftmost start and there the preferred end; `erase` removes every occurrence.
-/

namespace ContactSearch.Text

/-- A place in a text: what lies before it, nearest character first, and what lies after it. -/
structure Place where
  before : List Char
  after : List Char
deriving Repr, DecidableEq

/-- A text cut in three by an occurrence of a pattern. -/
structure Cut where
  before : List Char
  found : List Char
  after : List Char
deriving Repr, DecidableEq

/-- What is left when the occurrence is taken out and the ends are trimmed. -/
def Cut.rest (c : Cut) : List Char :=
  trim (c.before ++ c.after)

/-- What a query is searched for. -/
inductive Pattern where
  /-- Matches nowhere. -/
  | never
  /-- These characters, ignoring case. -/
  | literal (chars : List Char)
  /-- A run of at least so many blanks, the longest preferred. -/
  | blanks (least : Nat)
  /-- The edge of a word. -/
  | edge
  /-- One pattern and then another. -/
  | seq (first second : Pattern)
  /-- One pattern or, failing that, another. -/
  | alt (first second : Pattern)
deriving Repr, DecidableEq

namespace Pattern

/-- The place after a literal, if it stands here. -/
def skipLiteral? : List Char → Place → Option Place
  | [], p => some p
  | _ :: _, ⟨_, []⟩ => none
  | l :: ls, ⟨before, c :: after⟩ =>
    if fold l == fold c then skipLiteral? ls ⟨c :: before, after⟩ else none

/-- The places after a run of at least so many blanks, the farthest first. -/
def skipBlanks (least : Nat) (before : List Char) : List Char → List Place
  | [] => if least = 0 then [⟨before, []⟩] else []
  | c :: after =>
    (if isBlank c then skipBlanks (least - 1) (c :: before) after else []) ++
      if least = 0 then [⟨before, c :: after⟩] else []

/-- The places where an occurrence that starts here can end, the preferred one first. -/
def ends : Pattern → Place → List Place
  | never, _ => []
  | literal chars, p => (skipLiteral? chars p).toList
  | blanks least, p => skipBlanks least p.before p.after
  | edge, p => if isBoundary p.before.head? p.after.head? then [p] else []
  | seq first second, p => (first.ends p).flatMap second.ends
  | alt first second, p => first.ends p ++ second.ends p

/-- The leftmost occurrence at or after a place. -/
def findFrom? (pattern : Pattern) (before : List Char) : List Char → Option Cut
  | [] =>
    (pattern.ends ⟨before, []⟩).head?.map fun e => ⟨before.reverse, [], e.after⟩
  | c :: after =>
    match pattern.ends ⟨before, c :: after⟩ with
    | e :: _ =>
      some ⟨before.reverse, (c :: after).take ((c :: after).length - e.after.length), e.after⟩
    | [] => findFrom? pattern (c :: before) after

/-- The leftmost occurrence in a text. -/
def find? (pattern : Pattern) (text : List Char) : Option Cut :=
  pattern.findFrom? [] text

/-- Removes the occurrences at or after a place, from left to right. The counter says how many
characters of the current occurrence are still to be dropped. -/
def eraseFrom (pattern : Pattern) (dropping : Nat) (before : List Char) : List Char → List Char
  | [] => []
  | c :: after =>
    match dropping with
    | n + 1 => eraseFrom pattern n (c :: before) after
    | 0 =>
      match pattern.ends ⟨before, c :: after⟩ with
      | e :: _ =>
        match (c :: after).length - e.after.length with
        | n + 1 => eraseFrom pattern n (c :: before) after
        | 0 => c :: eraseFrom pattern 0 (c :: before) after
      | [] => c :: eraseFrom pattern 0 (c :: before) after

/-- Removes every occurrence from a text. -/
def erase (pattern : Pattern) (text : List Char) : List Char :=
  pattern.eraseFrom 0 [] text

/-- Matches everywhere and takes no characters. -/
def nothing : Pattern :=
  literal []

/-- The characters of a string, ignoring case. -/
def text (s : String) : Pattern :=
  literal s.toList

/-- The first of these patterns that matches. -/
def anyOf (ps : List Pattern) : Pattern :=
  ps.foldr alt never

/-- These patterns one after another, with blanks between them. -/
def spaced : List Pattern → Pattern
  | [] => nothing
  | [p] => p
  | p :: ps => seq p (seq (blanks 1) (spaced ps))

/-- These words one after another, with blanks between them. -/
def phrase (ws : List String) : Pattern :=
  spaced (ws.map text)

/-- A pattern that may also match nothing, which it does only if it must. -/
def optional (p : Pattern) : Pattern :=
  alt p nothing

/-- A text that does not start or end inside a word. -/
def word (s : String) : Pattern :=
  seq edge (seq (text s) edge)

end Pattern

end ContactSearch.Text
