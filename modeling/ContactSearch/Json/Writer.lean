import ContactSearch.Json.Value
import ContactSearch.Number.Format
import ContactSearch.Text.Unit

/-!
# Writing JSON

Values are written in ASCII; every other character is escaped, beyond U+FFFF as a pair. On one
line there is a space after each comma and each colon. In the indented form every item and every
field stands on a line of its own.
-/

namespace ContactSearch.Json

/-- A hexadecimal digit. -/
def hexChar (n : Nat) : Char :=
  if n < 10 then Char.ofNat (48 + n) else Char.ofNat (87 + n)

/-- A unit of sixteen bits as an escape. -/
def escapeUnit (n : Nat) : List Char :=
  ['\\', 'u', hexChar (n / 0x1000 % 16), hexChar (n / 0x100 % 16), hexChar (n / 0x10 % 16),
    hexChar (n % 16)]

/-- A character inside a string. -/
def writeChar (c : Char) : List Char :=
  match c with
  | '"' => ['\\', '"']
  | '\\' => ['\\', '\\']
  | '\n' => ['\\', 'n']
  | '\r' => ['\\', 'r']
  | '\t' => ['\\', 't']
  | '\x08' => ['\\', 'b']
  | '\x0c' => ['\\', 'f']
  | c =>
    if 0x20 ≤ c.toNat ∧ c.toNat ≤ 0x7E then [c]
    else (Text.splitUnits c.toNat).flatMap escapeUnit

/-- A string with its quotes. -/
def writeString (s : String) : List Char :=
  '"' :: s.toList.flatMap writeChar ++ ['"']

mutual

/-- A value on one line. -/
def write : Json → List Char
  | null => "null".toList
  | bool true => "true".toList
  | bool false => "false".toList
  | int n => Text.intText n
  | real x => NumberFormat.data.number x
  | text s => writeString s
  | array items => '[' :: writeItems items ++ [']']
  | object fields => '\x7b' :: writeFields fields ++ ['\x7d']

/-- Items with commas between them. -/
def writeItems : List Json → List Char
  | [] => []
  | [v] => write v
  | v :: w :: more => write v ++ [',', ' '] ++ writeItems (w :: more)

/-- Fields with commas between them. -/
def writeFields : List (String × Json) → List Char
  | [] => []
  | [(k, v)] => writeString k ++ [':', ' '] ++ write v
  | (k, v) :: f :: more =>
    writeString k ++ [':', ' '] ++ write v ++ [',', ' '] ++ writeFields (f :: more)

end

/-- The start of a line at some depth. -/
def newLine (depth : Nat) : List Char :=
  '\n' :: List.replicate (2 * depth) ' '

mutual

/-- A value over several lines, two spaces deeper for each level. -/
def writeIndented (depth : Nat) : Json → List Char
  | array (v :: items) =>
    '[' :: newLine (depth + 1) ++ writeIndented (depth + 1) v ++ writeMoreItems (depth + 1) items ++
      newLine depth ++ [']']
  | object ((k, v) :: fields) =>
    '\x7b' :: newLine (depth + 1) ++ writeString k ++ [':', ' '] ++ writeIndented (depth + 1) v ++
      writeMoreFields (depth + 1) fields ++ newLine depth ++ ['\x7d']
  | v => write v

/-- The items after the first one. -/
def writeMoreItems (depth : Nat) : List Json → List Char
  | [] => []
  | v :: items => ',' :: newLine depth ++ writeIndented depth v ++ writeMoreItems depth items

/-- The fields after the first one. -/
def writeMoreFields (depth : Nat) : List (String × Json) → List Char
  | [] => []
  | (k, v) :: fields =>
    ',' :: newLine depth ++ writeString k ++ [':', ' '] ++ writeIndented depth v ++
      writeMoreFields depth fields

end

end ContactSearch.Json
