import ContactSearch.Json.Reader
import ContactSearch.Text.Encoding

/-!
# JSON as octets

JSON data does not say how it is encoded. A mark at the start decides; without one the zeros
among the first four octets do, since the first two characters of JSON text are ASCII.
-/

namespace ContactSearch.Json

open Text

/-- The marks, each with the encoding that it tells. A mark comes before those it starts with. -/
def marks : List (Octets × Encoding) :=
  [([0x00, 0x00, 0xFE, 0xFF], .utf32 true), ([0xFF, 0xFE, 0x00, 0x00], .utf32 false),
    ([0xFE, 0xFF], .utf16 true), ([0xFF, 0xFE], .utf16 false), ([0xEF, 0xBB, 0xBF], .utf8)]

/-- The encoding of octets without a mark. -/
def unmarked : Octets → Encoding
  | a :: b :: c :: d :: _ =>
    if a = 0 then (if b = 0 then .utf32 true else .utf16 true)
    else if b = 0 then (if c = 0 ∧ d = 0 then .utf32 false else .utf16 false)
    else .utf8
  | [a, b] => if a = 0 then .utf16 true else if b = 0 then .utf16 false else .utf8
  | _ => .utf8

/-- The encoding that octets are in, and the octets after the mark. -/
def detect (s : Octets) : Encoding × Octets :=
  match marks.find? fun m => m.1.isPrefixOf s with
  | some (mark, encoding) => (encoding, s.drop mark.length)
  | none => (unmarked s, s)

/-- Why octets are not read. -/
inductive OctetsError where
  | undecodable
  | unreadable (e : ReadError)
deriving Repr, DecidableEq

/-- Reads one value from octets in any of the encodings, with room for so many values in one
another. -/
def readOctetsWithin (room : Option Nat) (s : Octets) : Except OctetsError Json :=
  let (encoding, rest) := detect s
  match encoding.decode? rest with
  | none => .error .undecodable
  | some t =>
    match readWithin room t with
    | .ok v => .ok v
    | .error e => .error (.unreadable e)

/-- A unit that is no character stands in the octets, or an escape stands for one. -/
def areTorn (s : Octets) : Bool :=
  let (encoding, rest) := detect s
  encoding.isTorn rest || (encoding.decode? rest).any isTorn

/-- Reads one value from octets in any of the encodings, however deeply it is nested. -/
def readOctets (s : Octets) : Except OctetsError Json :=
  readOctetsWithin none s

end ContactSearch.Json
