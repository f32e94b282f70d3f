/-!
# Warmth

How close the relationship with a contact is, on a scale of four levels.
-/

namespace ContactSearch

/-- The level of a relationship. -/
inductive Warmth where
  | cold
  | warm
  | hot
  | champion
deriving Repr, DecidableEq

namespace Warmth

/-- All levels, from the lowest. -/
def all : List Warmth :=
  [cold, warm, hot, champion]

/-- The number of a level, from zero. -/
def level : Warmth → Nat
  | cold => 0
  | warm => 1
  | hot => 2
  | champion => 3

/-- The word shown for a level. -/
def label : Warmth → String
  | cold => "Cold"
  | warm => "Warm"
  | hot => "Hot"
  | champion => "Champion"

/-- The level of a number. -/
def ofLevel? (n : Int) : Option Warmth :=
  all.find? fun w => (w.level : Int) == n

theorem ofLevel?_level (w : Warmth) : ofLevel? w.level = some w := by
  cases w <;> decide

end Warmth

end ContactSearch
