/-!
# Caps

Lists are cut to their first items. A negative limit leaves out that many items at the end.
-/

namespace ContactSearch

/-- The items of a list up to a limit. -/
def capped {α : Type} (limit : Int) (items : List α) : List α :=
  if 0 ≤ limit then items.take limit.toNat else items.take (items.length - limit.natAbs)

theorem capped_sublist {α : Type} (limit : Int) (items : List α) :
    (capped limit items).Sublist items := by
  unfold capped; split <;> exact List.take_sublist ..

theorem length_capped_le {α : Type} (limit : Nat) (items : List α) :
    (capped limit items).length ≤ limit := by
  unfold capped
  rw [if_pos (Int.natCast_nonneg limit), Int.toNat_natCast]
  exact List.length_take_le limit items

end ContactSearch
