import ContactSearch.Proofs.Filter.Conjunction
import ContactSearch.Proofs.Recency
import ContactSearch.Proofs.Service.Request

/-!
# Answers to filters

A request to apply an answer of the classifier tells what is wrong with that answer, or which
contacts satisfy its filters. There are two ways in which an answer that can be read breaks the
service: where there are contacts, a number of days that leads out of the calendar, and a torn text
that is told.
-/

namespace ContactSearch

open Calendar Wire

/-- The recency filter spans more days than are counted, or leads from now to before the first day
of the calendar or past the last one. -/
def Filters.LeavesCalendar (f : Filters) (now : Timestamp) : Prop :=
  ∃ days, f.addedWithinDays = some days ∧ days ≠ 0 ∧
    (Recency.maxDays < days.natAbs ∨ (now.clock : Int) < days * dayLength ∨
      (dayCount * dayLength : Nat) ≤ (now.clock : Int) - days * dayLength)

theorem Filters.leavesCalendar_iff {f : Filters} {now : Timestamp} :
    f.LeavesCalendar now ↔ ¬ f.HasStart now := by
  unfold HasStart LeavesCalendar
  simp only [Recency.exists_cutoff_iff, not_forall, not_and_or, Nat.not_le, Int.not_le, Int.not_lt,
    exists_prop]

/-- Filters can be applied unless they lead out of the calendar and there is a contact. -/
theorem ClassifierAnswer.apply_eq_error_iff {answer : ClassifierAnswer} {now : Timestamp}
    {contacts : List Contact} : (∃ e, answer.apply now contacts = .error e) ↔
      contacts ≠ [] ∧ answer.filters.LeavesCalendar now := by
  rw [Filters.leavesCalendar_iff]
  exact Filters.apply_eq_error_iff answer.filters answer.context now contacts

/-- What is told of the contacts that satisfy the filters of an answer. -/
def ClassifierAnswer.told (o : Occasion) (results : List SearchResult) (answer : ClassifierAnswer) :
    Response :=
  .ok (FilterResponse.schema.write ⟨o.queryId, answer.explanation, results, some o.latencyMs⟩)

/-- How a request to apply an answer of the classifier is answered, where the body may be torn. -/
structure FilterRequest.IsAnswered (o : Occasion) (torn : Bool) (f : FilterRequest)
    (response : Response) : Prop where
  rejected : ∀ e, ClassifierAnswer.read (.decoded (.object f.classifier)) = .error e →
    response = .badGateway e.message
  applied : ∀ answer, ClassifierAnswer.read (.decoded (.object f.classifier)) = .ok answer →
    ¬ (f.contacts ≠ [] ∧ answer.filters.LeavesCalendar o.now) →
    ∃ results, answer.apply o.now f.contacts = .ok results ∧
      (answer.told o results).Tells o torn response
  broken : ∀ answer, ClassifierAnswer.read (.decoded (.object f.classifier)) = .ok answer →
    f.contacts ≠ [] → answer.filters.LeavesCalendar o.now →
    ∃ e, answer.apply o.now f.contacts = .error e ∧ response = .broken o.debug (.recency e)

namespace Service

variable {o : Occasion} {r : Registry} {f : FilterRequest} {answer : ClassifierAnswer} {torn : Bool}

theorem any_isStandIn_natText (n : Nat) : (Text.natText n).any Text.isStandIn = false := by
  rw [List.any_eq_false]
  intro c member
  have digit := isDigit_of_mem_natText member
  have low : c.toNat ≤ 57 := by
    simp only [Char.isDigit, Bool.and_eq_true, decide_eq_true_eq] at digit
    exact UInt32.le_iff_toNat_le.mp digit.2
  have small : ¬ 0x10D800 ≤ c.toNat := Nat.not_le.mpr (Nat.lt_of_le_of_lt low (by decide))
  simp [Text.isStandIn, small]

/-- There is nothing of the answer in the message of an error but a number. -/
theorem any_isStandIn_message (e : ClassifierError) :
    e.message.toList.any Text.isStandIn = false := by
  cases e with
  | invalid issues =>
    have front : "Invalid classifier response: ".toList.any Text.isStandIn = false := by
      decide
    have ending : (if issues.length = 1 then " validation error"
        else " validation errors").toList.any Text.isStandIn = false := by
      split <;> decide
    have back : " for ClassifierResponse".toList.any Text.isStandIn = false := by
      decide
    unfold ClassifierError.message
    rw [String.toList_append, String.toList_append, String.toList_append,
      @String.toList_ofList (Text.natText issues.length), List.any_append, List.any_append,
      List.any_append, front, any_isStandIn_natText, ending, back, Bool.or_self, Bool.or_self,
      Bool.or_self]
  | malformed => decide
  | notObject => decide
  | noFilters => decide

theorem canBeTold_badGateway (e : ClassifierError) :
    (Response.badGateway e.message).CanBeTold torn := by
  intro _
  have name : "detail".toList.any Text.isStandIn = false := by decide
  show Json.tellsStandIn (.object [("detail", .text e.message)]) = false
  rw [Json.tellsStandIn, Json.someFieldTellsStandIn, Json.someFieldTellsStandIn, Json.tellsStandIn,
    name, any_isStandIn_message]
  rfl

theorem settle_filter_of_error {e : ClassifierError}
    (rejects : ClassifierAnswer.ofJson (.object f.classifier) = .error e) :
    settle o torn (filter o f) = .badGateway e.message := by
  rw [filter, rejects]
  exact settle_of_canBeTold (canBeTold_badGateway e)

theorem filter_of_apply {results : List SearchResult}
    (reads : ClassifierAnswer.ofJson (.object f.classifier) = .ok answer)
    (applies : answer.apply o.now f.contacts = .ok results) :
    filter o f = .ok (answer.told o results) := by
  rw [filter, reads]
  simp only [applies]
  rfl

theorem settle_filter_of_apply_error {e : RecencyError}
    (reads : ClassifierAnswer.ofJson (.object f.classifier) = .ok answer)
    (fails : answer.apply o.now f.contacts = .error e) :
    settle o torn (filter o f) = .broken o.debug (.recency e) := by
  rw [filter, reads]
  simp only [fails]
  rfl

theorem isAnswered_filter : f.IsAnswered o torn (settle o torn (filter o f)) where
  rejected := fun _ rejects => settle_filter_of_error rejects
  applied := by
    intro answer reads fine
    cases applies : answer.apply o.now f.contacts with
    | ok results =>
      rw [filter_of_apply reads applies]
      exact ⟨results, rfl, tells_settle _ _ _⟩
    | error e => exact absurd (ClassifierAnswer.apply_eq_error_iff.mp ⟨e, applies⟩) fine
  broken := by
    intro answer reads some leaves
    obtain ⟨e, fails⟩ := ClassifierAnswer.apply_eq_error_iff.mpr ⟨some, leaves⟩
    exact ⟨e, fails, settle_filter_of_apply_error reads fails⟩

/-- A registry that no source was added to. -/
def emptyRegistry : Registry :=
  .make (.memory []) none

/-- An answer of the classifier in data that asks for contacts added within so many days. -/
def addedWithin (days : Int) : KeyedList String Json :=
  [("filters", .object [("addedWithinDays", .int days)])]

/-- A request to apply such an answer to one contact. -/
def addedWithinRequest (days : Int) : Json :=
  .object [("classifier", .object (addedWithin days)), ("records", .array [newcomerJson])]

theorem read_addedWithinRequest {room : Option Nat} (days : Int) (fits : Json.Fits room 3)
    (readable : (Json.int days).IsReadable)
    (seen : Json.detect (bodyOf (addedWithinRequest days)) =
      (.utf8, bodyOf (addedWithinRequest days))) :
    Request.read room FilterRequest.schema
        ⟨"POST", "/v1/search/filters", bodyOf (addedWithinRequest days)⟩ =
      .ok ⟨addedWithin days, [newcomer]⟩ := by
  refine read_bodyOf _ _ ?_ fits seen rfl
  simp [addedWithinRequest, addedWithin, Json.IsReadable, Json.AreReadable,
    Json.AreReadableFields, KeyedList.keys, isReadable_newcomerJson,
    show (Text.natText days.natAbs).length ≤ Text.maxDigits from readable]

/-- There is usually room for such a request. -/
theorem fits_usualRoom : Json.Fits Json.usualRoom 3 :=
  Json.fits_some.mpr (by decide)

end Service

end ContactSearch
