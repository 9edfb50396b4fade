import Mathlib.Data.String.Basic
import RuleElements.Proofs.Stacking.Total
import RuleElements.Stacking.Selection

/-!
# Different texts in order

`sortedTexts` forgets the order and the repetitions of a list and nothing else: its value is
determined by which texts are in the list.

Results:
* `mem_sortedTexts`: it has the same members.
* `sortedTexts_increasing`: they are in order, each once.
* `sortedTexts_congr`: lists with the same members have the same one.
-/

namespace RuleElements

@[simp] theorem mem_sortedTexts {s : String} {ss : List String} : s ∈ sortedTexts ss ↔ s ∈ ss := by
  unfold sortedTexts
  rw [List.mem_mergeSort, List.mem_eraseDups]

/-- The texts are in order. -/
theorem pairwise_sortedTexts (ss : List String) : (sortedTexts ss).Pairwise (· ≤ ·) := by
  have htrans : ∀ a b c : String, (!decide (b < a)) = true → (!decide (c < b)) = true →
      (!decide (c < a)) = true := by
    intro a b c hab hbc
    simp only [Bool.not_eq_true', decide_eq_false_iff_not, not_lt] at *
    exact le_trans hab hbc
  have htotal : ∀ a b : String, (!decide (b < a) || !decide (a < b)) = true := by
    intro a b
    simp only [Bool.or_eq_true, Bool.not_eq_true', decide_eq_false_iff_not, not_lt]
    exact le_total a b
  refine (List.pairwise_mergeSort htrans htotal ss.eraseDups).imp fun {a b} h => ?_
  simpa only [Bool.not_eq_true', decide_eq_false_iff_not, not_lt] using h

theorem nodup_sortedTexts (ss : List String) : (sortedTexts ss).Nodup :=
  (List.mergeSort_perm _ _).nodup_iff.mpr (Stacking.nodup_eraseDups ss)

/-- **The texts are in order, each once.** -/
theorem sortedTexts_increasing (ss : List String) : (sortedTexts ss).Pairwise (· < ·) :=
  ((pairwise_sortedTexts ss).and (nodup_sortedTexts ss)).imp fun ⟨hle, hne⟩ =>
    lt_of_le_of_ne hle hne

/-- **Lists with the same members have the same texts in order.** -/
theorem sortedTexts_congr {xs ys : List String} (h : ∀ s, s ∈ xs ↔ s ∈ ys) :
    sortedTexts xs = sortedTexts ys := by
  have hperm : (sortedTexts xs).Perm (sortedTexts ys) := by
    have hnodup := List.perm_ext_iff_of_nodup (nodup_sortedTexts xs) (nodup_sortedTexts ys)
    refine hnodup.mpr fun s => ?_
    rw [mem_sortedTexts, mem_sortedTexts, h]
  exact hperm.eq_of_pairwise (fun a b _ _ => le_antisymm) (pairwise_sortedTexts xs)
    (pairwise_sortedTexts ys)

end RuleElements
