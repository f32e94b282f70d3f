import ContactSearch.Wire.Leaf
import ContactSearch.Wire.Schema

/-!
# Schemas of single values
-/

namespace ContactSearch.Wire.Schema

/-- A text. -/
def text : Schema String :=
  .leaf readText .text

/-- A text that is not empty. -/
def nonEmptyText : Schema String :=
  .leaf readNonEmptyText .text

/-- An integer. -/
def integer : Schema Int :=
  .leaf readInteger .int

/-- A truth value. -/
def truth : Schema Bool :=
  .leaf readTruth .bool

/-- A level of warmth as its number. -/
def warmth : Schema Warmth :=
  .leaf readWarmth fun w => .int w.level

/-- A timestamp as text. -/
def timestamp : Schema Calendar.Timestamp :=
  .leaf readTimestamp fun t => .text (String.ofList t.write)

/-- A category by its name. -/
def category : Schema Category :=
  .leaf readCategory fun c => .text c.name

/-- A kind of intent by its name. -/
def intentKind : Schema IntentKind :=
  .leaf readIntentKind fun k => .text k.code

/-- An object that is kept as it is. -/
def anyObject : Schema (KeyedList String Json) :=
  .leaf readObject .object

end ContactSearch.Wire.Schema
