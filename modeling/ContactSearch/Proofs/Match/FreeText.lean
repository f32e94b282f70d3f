import ContactSearch.Match.FreeText
import ContactSearch.Proofs.Text.Joined
import Mathlib.Order.Bounds.Defs

/-!
# What free text earns

Free text scores for the first tier that applies. As the tiers are tried from the heaviest to the
lightest, that is the most the text can earn. The tiers that look at the first or the last name
alone find nothing that is not in the full name too: a name is in lower case the same whether it
stands for itself or beside the other one.
-/

namespace ContactSearch

open Text

/-- The texts of a contact that free text is looked for in: the full name, what is there of email,
title and organization, and the location. -/
def Contact.searched (c : Contact) : List String :=
  c.fullName :: c.email.toList ++ c.title.toList ++ c.org.toList ++ [c.location]

/-- What a text in lower case can earn at a contact: the weight of every condition that holds. -/
inductive Contact.Earns (key : List Char) (c : Contact) : Int → Prop
  | nameExact : key = c.fullName.lowered → Earns key c 100
  | nameStart : key <+: c.fullName.lowered ∨ key <+: c.firstName.lowered ∨
      key <+: c.lastName.lowered → Earns key c 80
  | nameInside : key <:+: c.fullName.lowered → Earns key c 60
  | email {s : String} : c.email = some s → key <:+: s.lowered → Earns key c 50
  | title {s : String} : c.title = some s → key <:+: s.lowered → Earns key c 40
  | org {s : String} : c.org = some s → key <:+: s.lowered → Earns key c 40
  | location : key <:+: c.location.lowered → Earns key c 30

/-! ## Names -/

/-- The full name in lower case is both names in lower case with a space between them. -/
theorem Contact.lowered_fullName (c : Contact) :
    c.fullName.lowered = c.firstName.lowered ++ ' ' :: c.lastName.lowered := by
  have joined : c.fullName.toList = c.firstName.toList ++ ' ' :: c.lastName.toList := by
    simp [fullName]
  rw [String.lowered, joined, lower_append_space, String.lowered, String.lowered]

variable {key : List Char} {c : Contact}

theorem Contact.infix_fullName_of_firstName (front : key <+: c.firstName.lowered) :
    key <:+: c.fullName.lowered := by
  rw [lowered_fullName]
  exact front.isInfix.trans (List.prefix_append _ _).isInfix

theorem Contact.infix_fullName_of_lastName (front : key <+: c.lastName.lowered) :
    key <:+: c.fullName.lowered := by
  rw [lowered_fullName]
  exact front.isInfix.trans ((List.suffix_cons _ _).trans (List.suffix_append _ _)).isInfix

/-! ## Tiers -/

namespace Tier

theorem earns_of_applies {tier : Tier} (applied : tier.applies key c = true) :
    c.Earns key tier.weight := by
  cases tier with
  | nameExact => exact .nameExact (beq_iff_eq.mp applied).symm
  | nameStart =>
    simp only [applies, Bool.or_eq_true, List.isPrefixOf_iff_prefix, or_assoc] at applied
    exact .nameStart applied
  | nameInside => exact .nameInside (contains_iff.mp applied)
  | email =>
    obtain ⟨s, there, inside⟩ := Match.exists_of_occursIn applied
    exact .email there inside
  | title =>
    obtain ⟨s, there, inside⟩ := Match.exists_of_occursIn applied
    exact .title there inside
  | org =>
    obtain ⟨s, there, inside⟩ := Match.exists_of_occursIn applied
    exact .org there inside
  | location => exact .location (contains_iff.mp applied)

/-- The empty text is at the start of every name. -/
theorem applies_nameStart_nil (c : Contact) : nameStart.applies [] c = true := by
  simp [applies]

/-- What a text can earn, some tier gives. For the empty text that may be another tier, as an empty
email is not looked at. -/
theorem exists_applies_of_earns {w : Int} (earned : c.Earns key w) :
    ∃ tier : Tier, tier.applies key c = true ∧ w ≤ tier.weight := by
  by_cases given : key = []
  · subst given
    cases earned with
    | nameExact same => exact ⟨nameExact, beq_iff_eq.mpr same.symm, Int.le_refl _⟩
    | _ => exact ⟨nameStart, applies_nameStart_nil c, by decide⟩
  · cases earned with
    | nameExact same => exact ⟨nameExact, beq_iff_eq.mpr same.symm, Int.le_refl _⟩
    | nameStart front =>
      refine ⟨nameStart, ?_, Int.le_refl _⟩
      simpa only [applies, Bool.or_eq_true, List.isPrefixOf_iff_prefix, or_assoc] using front
    | nameInside inside => exact ⟨nameInside, contains_iff.mpr inside, Int.le_refl _⟩
    | email there inside =>
      exact ⟨email, by rw [applies, there, Match.occursIn_of_infix given inside], Int.le_refl _⟩
    | title there inside =>
      exact ⟨title, by rw [applies, there, Match.occursIn_of_infix given inside], Int.le_refl _⟩
    | org there inside =>
      exact ⟨org, by rw [applies, there, Match.occursIn_of_infix given inside], Int.le_refl _⟩
    | location inside => exact ⟨location, contains_iff.mpr inside, Int.le_refl _⟩

theorem mem_all (tier : Tier) : tier ∈ all := by
  cases tier <;> decide

/-- The tiers are tried from the heaviest to the lightest. -/
theorem pairwise_weight_all : all.Pairwise fun a b => b.weight ≤ a.weight := by
  decide

/-- The first tier that applies is the heaviest of those that do. -/
theorem weight_le_of_find? {p : Tier → Bool} {first tier : Tier} (found : all.find? p = some first)
    (applied : p tier = true) : tier.weight ≤ first.weight := by
  obtain ⟨-, front, back, whole, before⟩ := List.find?_eq_some_iff_append.mp found
  have member := mem_all tier
  have ordered := pairwise_weight_all
  rw [whole] at member ordered
  rcases List.mem_append.mp member with inFront | inRest
  · exact absurd applied (by simpa using before tier inFront)
  · rcases List.mem_cons.mp inRest with rfl | inBack
    · exact Int.le_refl _
    · exact (List.pairwise_cons.mp (List.pairwise_append.mp ordered).2.1).1 tier inBack

theorem weight_pos (tier : Tier) : 0 < tier.weight := by
  cases tier <;> decide

end Tier

/-! ## The score -/

/-- A text can earn something exactly where it occurs in one of the texts that are searched. -/
theorem Contact.exists_earns_iff :
    (∃ w, c.Earns key w) ↔ ∃ s ∈ c.searched, key <:+: s.lowered := by
  constructor
  · rintro ⟨w, earned⟩
    cases earned with
    | nameExact same => exact ⟨c.fullName, by simp [searched], same ▸ List.infix_refl key⟩
    | nameStart front =>
      refine ⟨c.fullName, by simp [searched], ?_⟩
      rcases front with full | first | last
      · exact full.isInfix
      · exact infix_fullName_of_firstName first
      · exact infix_fullName_of_lastName last
    | nameInside inside => exact ⟨c.fullName, by simp [searched], inside⟩
    | email there inside => exact ⟨_, by simp [searched, there], inside⟩
    | title there inside => exact ⟨_, by simp [searched, there], inside⟩
    | org there inside => exact ⟨_, by simp [searched, there], inside⟩
    | location inside => exact ⟨c.location, by simp [searched], inside⟩
  · rintro ⟨s, member, inside⟩
    simp only [searched, List.cons_append, List.append_assoc, List.mem_cons, List.mem_append,
      Option.mem_toList, List.not_mem_nil, or_false] at member
    rcases member with rfl | email | title | org | rfl
    · exact ⟨60, .nameInside inside⟩
    · exact ⟨50, .email email inside⟩
    · exact ⟨40, .title title inside⟩
    · exact ⟨40, .org org inside⟩
    · exact ⟨30, .location inside⟩

namespace Match

/-- The score of free text at a contact. -/
structure ScoresBest (text : String) (c : Contact) : Prop where
  positive : 0 < (freeText text c).score ↔ ∃ s ∈ c.searched, text.lowered <:+: s.lowered
  greatest : 0 < (freeText text c).score →
    IsGreatest {w | c.Earns text.lowered w} (freeText text c).score
  /-- Where the score is not positive, there is no match at all. -/
  otherwise : ¬ 0 < (freeText text c).score → freeText text c = nothing

theorem freeText_cases (text : String) (c : Contact) :
    (∃ tier : Tier, Tier.all.find? (Tier.applies text.lowered c) = some tier ∧
      freeText text c = tier.toMatch text) ∨
    (Tier.all.find? (Tier.applies text.lowered c) = none ∧ freeText text c = nothing) := by
  unfold freeText freeText?
  cases found : Tier.all.find? (Tier.applies text.lowered c) with
  | some tier => exact .inl ⟨tier, rfl, rfl⟩
  | none => exact .inr ⟨rfl, rfl⟩

/-- Free text scores exactly where it occurs in the texts of a contact, and it scores the most that
it can earn there. -/
theorem freeText_scoresBest (text : String) (c : Contact) : ScoresBest text c := by
  rcases freeText_cases text c with ⟨first, found, same⟩ | ⟨none, same⟩
  · have applied : first.applies text.lowered c = true := List.find?_some found
    have earned : c.Earns text.lowered (first.toMatch text).score := Tier.earns_of_applies applied
    have positive : 0 < (first.toMatch text).score := first.weight_pos
    refine ⟨?_, ?_, ?_⟩ <;> rw [same]
    · exact iff_of_true positive (Contact.exists_earns_iff.mp ⟨_, earned⟩)
    · intro _
      refine ⟨earned, ?_⟩
      rintro w possible
      obtain ⟨tier, applies, most⟩ := Tier.exists_applies_of_earns possible
      exact Int.le_trans most (Tier.weight_le_of_find? found applies)
    · intro none
      exact absurd positive none
  · have nowhere : ¬ ∃ s ∈ c.searched, text.lowered <:+: s.lowered := by
      rw [← Contact.exists_earns_iff]
      rintro ⟨w, possible⟩
      obtain ⟨tier, applies, -⟩ := Tier.exists_applies_of_earns possible
      exact List.find?_eq_none.mp none tier tier.mem_all applies
    refine ⟨?_, ?_, ?_⟩ <;> rw [same]
    · exact iff_of_false (Int.lt_irrefl 0) nowhere
    · intro positive
      exact absurd positive (Int.lt_irrefl 0)
    · intro _
      rfl

end Match

end ContactSearch
