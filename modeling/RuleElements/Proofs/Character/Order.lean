import RuleElements.Character.Sheet
import RuleElements.Proofs.Aggregate.Reorder
import RuleElements.Proofs.Numeric.Integral
import RuleElements.Proofs.Stacking.Total
import RuleElements.Proofs.Text.Sorted

/-!
# Integral entries in any order

The largest and the sum of integers do not depend on their order, and so neither do the results that
are read off a list of entries with integral values: hit points, recovery, defenses, and what the
modifiers aimed at a selector come to.

Main definitions:
* `Aggregate.Integral`: all values of an aggregate are integers.

Results:
* `TempHP.active_perm`, `FastHealing.total_perm`, `Resistance.against_perm`,
  `Weakness.against_perm`: one list of entries.
* `Stacking.valueOn_integral`, `Aggregate.reference_modifiersFor`: what modifiers come to.
-/

namespace RuleElements

instance : DecidablePred Modifier.IsIntegral := fun m =>
  inferInstanceAs (Decidable m.value.IsIntegral)

/-- **An aggregate all of whose values are integers.** -/
structure Aggregate.Integral (a : Aggregate) : Prop where
  modifiers : ∀ m ∈ a.modifiers, m.IsIntegral
  speeds : ∀ s ∈ a.speeds, s.value.IsIntegral
  tempHP : ∀ t ∈ a.tempHP, t.value.IsIntegral
  fastHealing : ∀ f ∈ a.fastHealing, f.value.IsIntegral
  resistances : ∀ r ∈ a.resistances, r.value.IsIntegral
  weaknesses : ∀ w ∈ a.weaknesses, w.value.IsIntegral

instance (a : Aggregate) : Decidable a.Integral :=
  decidable_of_iff ((∀ m ∈ a.modifiers, m.IsIntegral) ∧ (∀ s ∈ a.speeds, s.value.IsIntegral) ∧
      (∀ t ∈ a.tempHP, t.value.IsIntegral) ∧ (∀ f ∈ a.fastHealing, f.value.IsIntegral) ∧
      (∀ r ∈ a.resistances, r.value.IsIntegral) ∧ ∀ w ∈ a.weaknesses, w.value.IsIntegral)
    ⟨fun ⟨hm, hs, ht, hf, hr, hw⟩ => ⟨hm, hs, ht, hf, hr, hw⟩, fun h =>
      ⟨h.modifiers, h.speeds, h.tempHP, h.fastHealing, h.resistances, h.weaknesses⟩⟩

/-- What applies of an integral aggregate is integral. -/
theorem Aggregate.Integral.filter {a : Aggregate} (h : a.Integral) (ctx : Context) :
    (a.filter ctx).Integral where
  modifiers m hm := h.modifiers m (List.mem_filter.mp hm).1
  speeds s hs := h.speeds s (List.mem_filter.mp hs).1
  tempHP t ht := h.tempHP t (List.mem_filter.mp ht).1
  fastHealing f hf := h.fastHealing f (List.mem_filter.mp hf).1
  resistances r hr := h.resistances r (List.mem_filter.mp hr).1
  weaknesses w hw := h.weaknesses w (List.mem_filter.mp hw).1

/-- Integral entries are integral in another order. -/
theorem Aggregate.Integral.reordered {a b : Aggregate} (h : a.Integral) (hsame : a.Reordered b) :
    b.Integral where
  modifiers m hm := h.modifiers m (hsame.modifiers.mem_iff.mpr hm)
  speeds s hs := h.speeds s (hsame.speeds.mem_iff.mpr hs)
  tempHP t ht := h.tempHP t (hsame.tempHP.mem_iff.mpr ht)
  fastHealing f hf := h.fastHealing f (hsame.fastHealing.mem_iff.mpr hf)
  resistances r hr := h.resistances r (hsame.resistances.mem_iff.mpr hr)
  weaknesses w hw := h.weaknesses w (hsame.weaknesses.mem_iff.mpr hw)

/-- The values of some of the entries are integral if all are. -/
theorem isIntegral_of_filter {α : Type} {value : α → Number} {xs : List α} (p : α → Bool)
    (h : ∀ x ∈ xs, (value x).IsIntegral) : ∀ n ∈ (xs.filter p).map value, n.IsIntegral := by
  intro n hn
  obtain ⟨x, hx, rfl⟩ := List.mem_map.mp hn
  exact h x (List.mem_filter.mp hx).1

/-! ## Hit points and recovery -/

/-- The value of the source that counts is the largest one. -/
theorem TempHP.active_value (sources : List TempHP) :
    (active sources none).map (·.value) = Number.maximum? (sources.map (·.value)) := by
  have hfold : ∀ (sources : List TempHP) (best : TempHP),
      (sources.foldl keepBest (some best)).map (·.value) =
        some ((sources.map (·.value)).foldl Number.larger best.value) := by
    intro sources
    induction sources with
    | nil => exact fun _ => rfl
    | cons t rest ih =>
      intro best
      have hbest : keepBest (some best) t = some (if best.value.lt t.value then t else best) := by
        unfold keepBest
        exact (apply_ite some _ _ _).symm
      have hlarger : (if best.value.lt t.value then t else best).value =
          best.value.larger t.value := apply_ite TempHP.value _ _ _
      rw [List.foldl_cons, hbest, ih, hlarger, List.map_cons, List.foldl_cons]
  unfold active
  rw [Gated.filter_appliesIn_none]
  cases sources with
  | nil => rfl
  | cons t rest => exact hfold rest t

theorem TempHP.active_perm {xs ys : List TempHP} (h : ∀ t ∈ xs, t.value.IsIntegral)
    (hperm : xs.Perm ys) :
    (active xs none).map (·.value) = (active ys none).map (·.value) := by
  rw [active_value, active_value]
  exact Number.maximum?_perm (List.forall_mem_map.mpr h) (hperm.map _)

/-- Integral sources heal an integral sum. -/
theorem FastHealing.total_integral {sources : List FastHealing} (recent : List String)
    (ctx : Option Context) (h : ∀ f ∈ sources, f.value.IsIntegral) :
    ∃ n : Int, total sources recent ctx = .ok (.integer n) :=
  ⟨_, Number.sum_integral (isIntegral_of_filter (heals recent ctx) h)⟩

theorem FastHealing.total_perm {xs ys : List FastHealing} (recent : List String)
    (ctx : Option Context) (h : ∀ f ∈ xs, f.value.IsIntegral) (hperm : xs.Perm ys) :
    total xs recent ctx = total ys recent ctx :=
  Number.sum_perm (isIntegral_of_filter (heals recent ctx) h) ((hperm.filter _).map _)

/-! ## Defenses -/

theorem Resistance.against_perm {xs ys : List Resistance} (type : String) (source : Option String)
    (ctx : Option Context) (h : ∀ r ∈ xs, r.value.IsIntegral) (hperm : xs.Perm ys) :
    against xs type source ctx = against ys type source ctx :=
  Number.foldl_larger_perm (isIntegral_of_filter (resists ctx type source) h)
    ((hperm.filter _).map _) 0

theorem Weakness.against_perm {xs ys : List Weakness} (type : String) (ctx : Option Context)
    (h : ∀ w ∈ xs, w.value.IsIntegral) (hperm : xs.Perm ys) :
    against xs type ctx = against ys type ctx :=
  Number.foldl_larger_perm (isIntegral_of_filter _ h) ((hperm.filter _).map _) 0

/-! ## Modifiers -/

/-- An integral base with integral modifiers is an integer. -/
theorem Stacking.valueOn_integral {ms : List Modifier} (base : Int) (h : ∀ m ∈ ms, m.IsIntegral) :
    valueOn (.integer base) ms = .ok (.integer (base + reference ms)) := by
  unfold valueOn
  rw [totalOf_eq_reference h]
  rfl

namespace Aggregate

variable {a b : Aggregate} {c d : Context}

/-- The modifiers for a selector are integral if all are. -/
theorem Integral.modifiersFor (h : a.Integral) (ctx : Option Context) (selector : String)
    (included : List String) : ∀ m ∈ a.modifiersFor ctx selector included, m.IsIntegral :=
  fun m hm => h.modifiers m (List.mem_filter.mp hm).1

/-- What the modifiers for a selector come to does not depend on their order, in contexts that are
alike. -/
theorem reference_modifiersFor (h : a.Reordered b) (halike : c.Alike d) (selector : String)
    (included : List String) :
    Stacking.reference (a.modifiersFor (some c) selector included) =
      Stacking.reference (b.modifiersFor (some d) selector included) := by
  have hforce : ∀ m : Modifier, m.isInForce (some c) = m.isInForce (some d) := fun m =>
    congrArg (m.enabled && ·) (congrFun (Gated.applies_of_alike halike) m)
  refine Stacking.reference_perm ?_
  unfold modifiersFor
  simp only [hforce]
  exact h.modifiers.filter _

/-- The selectors that modifiers are aimed at do not depend on their order. -/
theorem selectors_eq (h : a.Reordered b) : a.selectors = b.selectors :=
  sortedTexts_congr fun _ => (h.modifiers.map _).mem_iff

end Aggregate

end RuleElements
