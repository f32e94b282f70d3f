import ContactSearch.Proofs.Recency
import ContactSearch.Proofs.Search.Additive

/-!
# When a search fails

Matching an intent fails only where the intent asks for a span of days that has no start, and then
it fails at every contact for the same reason. So whether a search fails is decided by its query and
the clock, once there is a contact to look at.
-/

namespace ContactSearch

open Calendar Text

/-- An intent on time that asks for a span of days without a start, with the reason. -/
def Intent.HasNoStart (now : Timestamp) (i : Intent) (e : RecencyError) : Prop :=
  i.kind = .time ∧ ∃ days, readInt? i.value.toList = some days ∧ Recency.HasNoStart now days e

namespace Match

variable {now : Timestamp} {c : Contact} {e : RecencyError}

theorem added?_eq_error_iff {days : Int} :
    added? now days c = .error e ↔ Recency.HasNoStart now days e := by
  rw [← Recency.within_eq_error_iff, added?]
  cases Recency.within now days c.createdAt with
  | error e' => simp [bind, Except.bind]
  | ok recent => cases recent <;> simp [bind, Except.bind, pure, Except.pure]

theorem time?_eq_error_iff {value : String} : time? now value c = .error e ↔
    ∃ days, readInt? value.toList = some days ∧ Recency.HasNoStart now days e := by
  unfold time?
  cases read : readInt? value.toList with
  | none => simp
  | some days => simp [added?_eq_error_iff]

/-- An intent fails at a contact for a reason that the contact has no part in. -/
theorem intent?_eq_error_iff {i : Intent} : intent? now i c = .error e ↔ i.HasNoStart now e := by
  by_cases time : i.kind = .time
  · rw [intent?, time, Intent.HasNoStart]
    simp only [time?_eq_error_iff, time, true_and]
  · have never : ¬ i.HasNoStart now e := fun missing => time missing.1
    rw [intent?]
    split <;> simp_all

/-- An intent that does not fail matches for a positive score, or not at all. -/
theorem intent?_of_start {i : Intent} (fine : ∀ e, ¬ i.HasNoStart now e) :
    ∃ m, intent? now i c = .ok m ∧ ∀ hit ∈ m, 0 < hit.score := by
  cases ran : intent? now i c with
  | error e => exact absurd (intent?_eq_error_iff.mp ran) (fine e)
  | ok m =>
    refine ⟨m, rfl, ?_⟩
    intro hit there
    rw [Option.mem_def.mp there] at ran
    exact score_intent?_pos ran

end Match

namespace Search

end Search

end ContactSearch
