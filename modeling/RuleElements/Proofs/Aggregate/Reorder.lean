import Mathlib.Data.List.Perm.Basic
import RuleElements.Proofs.Aggregate.Merge
import RuleElements.Proofs.Faulting
import RuleElements.Proofs.Predicate.Agreement

/-!
# Aggregates in another order

Aggregates that are merged in another order hold the same entries, in another order within each
bucket. So they put the same options in force, and filtered in contexts that are alike they still
hold the same entries.

Main definitions:
* `Aggregate.Reordered`: aggregates with the same entries in each bucket.

Results:
* `Faulting.mapM_perm`: a map over a list in another order.
* `Aggregate.merge_reordered`, `Aggregate.Reordered.filter`: merging and filtering.
* `Aggregate.Reordered.mem_offers_iff`: the options that are contributed.
-/

namespace RuleElements

/-- A map over a list in another order succeeds too, with the results in another order. -/
theorem Faulting.mapM_perm {ε α β : Type} {f : α → Except ε β} {xs ys : List α}
    (h : xs.Perm ys) : ∀ {us : List β}, xs.mapM f = .ok us → ∃ vs, ys.mapM f = .ok vs ∧
      us.Perm vs := by
  induction h with
  | nil => exact fun hus => ⟨_, hus, .refl _⟩
  | cons x _ ih =>
    intro us hus
    obtain ⟨u, us', hu, hus', rfl⟩ := mapM_cons_eq_ok.mp hus
    obtain ⟨vs, hvs, hperm⟩ := ih hus'
    exact ⟨u :: vs, mapM_cons_eq_ok.mpr ⟨u, vs, hu, hvs, rfl⟩, hperm.cons u⟩
  | swap x y l =>
    intro us hus
    obtain ⟨v, tail, hv, htail, rfl⟩ := mapM_cons_eq_ok.mp hus
    obtain ⟨u, rest, hu, hrest, rfl⟩ := mapM_cons_eq_ok.mp htail
    have hswapped := mapM_cons_eq_ok.mpr ⟨v, rest, hv, hrest, rfl⟩
    exact ⟨u :: v :: rest, mapM_cons_eq_ok.mpr ⟨u, _, hu, hswapped, rfl⟩, .swap u v rest⟩
  | trans _ _ ih₁ ih₂ =>
    intro us hus
    obtain ⟨vs, hvs, hperm⟩ := ih₁ hus
    obtain ⟨ws, hws, hperm'⟩ := ih₂ hvs
    exact ⟨ws, hws, hperm.trans hperm'⟩

namespace Aggregate

/-- **Aggregates with the same entries**, in another order within each bucket. -/
def Reordered (a b : Aggregate) : Prop := ∀ k, (a.bucket k).Perm (b.bucket k)

/-- Aggregates merged in another order hold the same entries. -/
theorem merge_reordered {parts parts' : List Aggregate} (h : parts.Perm parts') :
    (merge parts).Reordered (merge parts') := by
  intro k
  rw [bucket_merge, bucket_merge]
  exact h.flatMap_right _

namespace Reordered

variable {a b : Aggregate} {c d : Context}

/-- What applies is the same in contexts that are alike. -/
theorem filter (h : a.Reordered b) (halike : c.Alike d) : (a.filter c).Reordered (b.filter d) := by
  intro k
  rw [bucket_filter, bucket_filter, Gated.applies_of_alike halike]
  exact (h k).filter _

/-! ## The lists of an aggregate -/

section Lists

/-- A list of one sort is in another order if its bucket is. -/
theorem perm_of_map {α : Type} {f : α → Entry} {xs ys : List α} (h : (xs.map f).Perm (ys.map f))
    (inj : ∀ {x y}, f x = f y → x = y) : xs.Perm ys := (List.map_perm_map_iff @inj).mp h

variable (h : a.Reordered b)
include h

theorem modifiers : a.modifiers.Perm b.modifiers := perm_of_map (h .flatModifier) Entry.modifier.inj

theorem speeds : a.speeds.Perm b.speeds := perm_of_map (h .baseSpeed) Entry.speed.inj

theorem rollOptions : a.rollOptions.Perm b.rollOptions :=
  perm_of_map (h .rollOption) Entry.rollOption.inj

theorem toggleProperties : a.toggleProperties.Perm b.toggleProperties :=
  perm_of_map (h .toggleProperty) Entry.toggleProperty.inj

theorem tempHP : a.tempHP.Perm b.tempHP := perm_of_map (h .tempHP) Entry.tempHP.inj

theorem fastHealing : a.fastHealing.Perm b.fastHealing :=
  perm_of_map (h .fastHealing) Entry.fastHealing.inj

theorem resistances : a.resistances.Perm b.resistances :=
  perm_of_map (h .resistance) Entry.resistance.inj

theorem weaknesses : a.weaknesses.Perm b.weaknesses :=
  perm_of_map (h .weakness) Entry.weakness.inj

theorem traitChanges : a.traitChanges.Perm b.traitChanges :=
  perm_of_map (h .actorTraits) Entry.traitChange.inj

end Lists

/-- **The same options are contributed.** -/
theorem mem_offers_iff (h : a.Reordered b) {o : String} : o ∈ a.offers ↔ o ∈ b.offers := by
  have hroll : ((a.rollOptions.filter (·.enabled)).map (·.option)).Perm
      ((b.rollOptions.filter (·.enabled)).map (·.option)) := (h.rollOptions.filter _).map _
  have htoggles := h.toggleProperties.flatMap_right (·.options)
  exact (hroll.append htoggles).mem_iff

/-- The same options are put in force in contexts that are alike. -/
theorem mem_activeOptions_iff (h : a.Reordered b) (halike : c.Alike d) {o : String} :
    o ∈ a.activeOptions c ↔ o ∈ b.activeOptions d := by
  rw [mem_activeOptions, mem_activeOptions, (h.filter halike).mem_offers_iff]

end Reordered

end Aggregate

end RuleElements
