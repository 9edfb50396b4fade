import Mathlib.Algebra.GroupWithZero.Nat
import RuleElements.Proofs.Aggregate.Merge

/-!
# The algebra of merging and filtering

Merged aggregates are joins of their parts, so a merge of merges is the merge of all parts.
Filtering keeps what applies in each bucket, so it goes through a merge part by part, twice is once,
and two contexts can be taken in either order. Neither loses a remark.

Results:
* `Aggregate.merge_flatten`: a merge of merges.
* `Aggregate.filter_merge`: filtering a merge.
* `Aggregate.filter_filter`, `Aggregate.filter_comm`: filtering twice.
* `Aggregate.merge_filter_laws`: all laws together.
-/

namespace RuleElements.Aggregate

variable (c d : Context) (a b : Aggregate)

/-! ## Merging -/

/-- Lists of aggregates are merged apart and then joined. -/
theorem merge_append (xs ys : List Aggregate) : merge (xs ++ ys) = merge xs ++ merge ys := by
  induction xs with
  | nil => exact (empty_append (merge ys)).symm
  | cons a xs ih => rw [List.cons_append, merge_cons, merge_cons, ih, append_assoc]

/-- **A merge of merges** is the merge of all parts. -/
theorem merge_flatten (groups : List (List Aggregate)) :
    merge (groups.map merge) = merge groups.flatten := by
  induction groups with
  | nil => rfl
  | cons group rest ih => rw [List.map_cons, merge_cons, List.flatten_cons, merge_append, ih]

/-- The merge of two aggregates is their join. -/
theorem merge_pair : merge [a, b] = a ++ b := by
  rw [merge_cons, merge_cons]
  exact congrArg (a ++ ·) (append_empty b)

theorem logs_merge (parts : List Aggregate) : (merge parts).logs = parts.flatMap (·.logs) := by
  induction parts with
  | nil => rfl
  | cons a rest ih => rw [merge_cons, logs_append, ih, List.flatMap_cons]

theorem total_merge (parts : List Aggregate) : (merge parts).total = (parts.map total).sum := by
  induction parts with
  | nil => rfl
  | cons a rest ih => rw [merge_cons, total_append, ih, List.map_cons, List.sum_cons]

/-! ## Filtering -/

theorem filter_append : (a ++ b).filter c = a.filter c ++ b.filter c := by
  refine eq_of_bucket (fun k => ?_) rfl
  rw [bucket_append, bucket_filter, bucket_filter, bucket_filter, bucket_append,
    List.filter_append]

/-- **A merge is filtered part by part.** -/
theorem filter_merge (parts : List Aggregate) :
    (merge parts).filter c = merge (parts.map (filter c)) := by
  induction parts with
  | nil => rfl
  | cons a rest ih => rw [merge_cons, filter_append, ih, List.map_cons, merge_cons]

/-- Filtered again, an aggregate holds what applies in both contexts. -/
theorem bucket_filter_filter (k : Kind) : ((a.filter c).filter d).bucket k =
    (a.bucket k).filter fun x => Gated.applies d x && Gated.applies c x := by
  rw [bucket_filter, bucket_filter, List.filter_filter]

theorem filter_filter : (a.filter c).filter c = a.filter c := by
  refine eq_of_bucket (fun k => ?_) rfl
  rw [bucket_filter_filter, bucket_filter]
  simp only [Bool.and_self]

theorem filter_comm : (a.filter c).filter d = (a.filter d).filter c := by
  refine eq_of_bucket (fun k => ?_) rfl
  rw [bucket_filter_filter, bucket_filter_filter]
  simp only [Bool.and_comm]

/-- What a filtered aggregate holds stands in the order it stood in before. -/
theorem bucket_filter_sublist (k : Kind) : ((a.filter c).bucket k).Sublist (a.bucket k) := by
  rw [bucket_filter]
  exact List.filter_sublist

/-! ## Both -/

/-- **Merging and filtering form an algebra.** Merging is associative over lists of any length, with
the empty aggregate as its unit, and joins buckets and remarks in order. Filtering goes through a
merge, is idempotent and commutes with itself; it keeps, in order, the entries of each bucket that
apply, and all remarks. The total of a merge is the sum of the totals. -/
theorem merge_filter_laws (c d : Context) (a₁ a₂ a₃ : Aggregate) (parts : List Aggregate)
    (groups : List (List Aggregate)) :
    (merge (groups.map merge) = merge groups.flatten ∧
        merge [merge [a₁, a₂], a₃] = merge [a₁, merge [a₂, a₃]] ∧
        merge [empty, a₁] = a₁ ∧ merge [a₁, empty] = a₁) ∧
      ((∀ k, (merge parts).bucket k = parts.flatMap (·.bucket k)) ∧
        (merge parts).logs = parts.flatMap (·.logs) ∧
        (merge parts).total = (parts.map total).sum) ∧
      ((merge parts).filter c = merge (parts.map (filter c)) ∧
        (a₁.filter c).filter c = a₁.filter c ∧
        (a₁.filter c).filter d = (a₁.filter d).filter c) ∧
      (∀ k, (a₁.filter c).bucket k = (a₁.bucket k).filter (Gated.applies c) ∧
        ((a₁.filter c).bucket k).Sublist (a₁.bucket k)) ∧
      (a₁.filter c).logs = a₁.logs := by
  have hassoc : merge [merge [a₁, a₂], a₃] = merge [a₁, merge [a₂, a₃]] := by
    simp only [merge_pair, append_assoc]
  have hunit : merge [empty, a₁] = a₁ ∧ merge [a₁, empty] = a₁ := by
    simp only [merge_pair, empty_append, append_empty, and_self]
  exact ⟨⟨merge_flatten groups, hassoc, hunit⟩,
    ⟨fun k => bucket_merge k parts, logs_merge parts, total_merge parts⟩,
    ⟨filter_merge c parts, filter_filter c a₁, filter_comm c d a₁⟩,
    fun k => ⟨bucket_filter c a₁ k, bucket_filter_sublist c a₁ k⟩, rfl⟩

end RuleElements.Aggregate
