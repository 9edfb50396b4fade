import Mathlib.Algebra.BigOperators.Group.List.Basic
import Mathlib.Tactic.Ring
import RuleElements.Numeric.Number

/-!
# Lists of integers among the numbers

The largest number of a list is the first of several that are equal, and sums of double-precision
numbers are rounded one by one, so both depend on the order. For integers they do not.

Main definitions:
* `Number.IsIntegral`: the numbers that are integers.
* `Number.toInt`: the integer that a number is.

Results:
* `Number.maximum?_perm`, `Number.foldl_larger_perm`, `Number.sum_perm`: the order does not matter.
-/

namespace RuleElements.Number

/-- **A number that is an integer.** -/
def IsIntegral (a : Number) : Prop := ∃ n : Int, a = .integer n

instance : DecidablePred IsIntegral
  | .integer n => isTrue ⟨n, rfl⟩
  | .real _ => isFalse nofun

/-- The integer that a number is; zero for double-precision numbers. -/
def toInt : Number → Int
  | .integer n => n
  | .real _ => 0

theorem IsIntegral.eq_integer {a : Number} (h : a.IsIntegral) : a = .integer a.toInt := by
  obtain ⟨n, rfl⟩ := h
  rfl

theorem isIntegral_integer (n : Int) : (Number.integer n).IsIntegral := ⟨n, rfl⟩

theorem IsIntegral.larger {a b : Number} (ha : a.IsIntegral) (hb : b.IsIntegral) :
    (a.larger b).IsIntegral := by
  unfold Number.larger
  split
  · exact hb
  · exact ha

variable {xs ys : List Number}

/-- Integral numbers are the integers that they are. -/
theorem map_toInt (h : ∀ a ∈ xs, a.IsIntegral) : (xs.map toInt).map .integer = xs := by
  rw [List.map_map]
  exact (List.map_congr_left fun a ha => (h a ha).eq_integer.symm).trans (List.map_id xs)

theorem foldl_larger_integers : ∀ (ns : List Int) (start : Int),
    (ns.map .integer).foldl larger (.integer start) = .integer (ns.foldl max start)
  | [], _ => rfl
  | n :: ns, start => by
    rw [List.map_cons, List.foldl_cons, larger_integer, foldl_larger_integers ns, List.foldl_cons]

theorem foldl_larger_integral (h : ∀ a ∈ xs, a.IsIntegral) (start : Int) :
    xs.foldl larger (.integer start) = .integer ((xs.map toInt).foldl max start) := by
  conv_lhs => rw [← map_toInt h]
  exact foldl_larger_integers _ start

theorem maximum?_integers (ns : List Int) : maximum? (ns.map .integer) = ns.max?.map .integer := by
  cases ns with
  | nil => rfl
  | cons n ns =>
    rw [List.map_cons, maximum?, foldl_larger_integers, List.max?_cons', Option.map_some]

/-- Integers in another order have the same largest one. -/
theorem max?_perm {ns ms : List Int} (h : ns.Perm ms) : ns.max? = ms.max? :=
  Option.ext fun n => by simp only [List.max?_eq_some_iff, h.mem_iff]

/-- The largest of integers from a first one on is their least upper bound. -/
theorem foldl_max_le_iff {ns : List Int} {start bound : Int} :
    ns.foldl max start ≤ bound ↔ start ≤ bound ∧ ∀ n ∈ ns, n ≤ bound := by
  induction ns generalizing start with
  | nil => simp
  | cons n ns ih => rw [List.foldl_cons, ih, max_le_iff, List.forall_mem_cons, and_assoc]

/-- Among more integers, the largest one is no smaller. -/
theorem foldl_max_subset {ns ms : List Int} (h : ns ⊆ ms) (start : Int) :
    ns.foldl max start ≤ ms.foldl max start := by
  obtain ⟨hstart, hbound⟩ := foldl_max_le_iff.mp (le_refl (ms.foldl max start))
  exact foldl_max_le_iff.mpr ⟨hstart, fun n hn => hbound n (h hn)⟩

/-- The largest of integers from a first one on is an integer. -/
theorem isIntegral_foldl_larger (h : ∀ a ∈ xs, a.IsIntegral) (start : Int) :
    (xs.foldl larger (.integer start)).IsIntegral :=
  ⟨_, foldl_larger_integral h start⟩

/-- The largest of integers from zero on is their least upper bound that is not negative. -/
theorem toInt_foldl_larger_le_iff (h : ∀ a ∈ xs, a.IsIntegral) {bound : Int} :
    (xs.foldl larger (.integer 0)).toInt ≤ bound ↔ 0 ≤ bound ∧ ∀ a ∈ xs, a.toInt ≤ bound := by
  rw [foldl_larger_integral h, toInt, foldl_max_le_iff, List.forall_mem_map]

/-- The larger of an integer and the largest of a list is the largest of both. -/
theorem larger_foldl_larger (h : ∀ a ∈ xs, a.IsIntegral) (first start : Int) :
    (Number.integer first).larger (xs.foldl larger (.integer start)) =
      xs.foldl larger ((Number.integer first).larger (.integer start)) := by
  rw [foldl_larger_integral h, larger_integer, larger_integer, foldl_larger_integral h,
    List.foldl_assoc]

/-! ## Order -/

/-- **The largest of integers** does not depend on their order. -/
theorem maximum?_perm (h : ∀ a ∈ xs, a.IsIntegral) (hperm : xs.Perm ys) :
    maximum? xs = maximum? ys := by
  rw [← map_toInt h, ← map_toInt fun a ha => h a (hperm.mem_iff.mpr ha), maximum?_integers,
    maximum?_integers, max?_perm (hperm.map toInt)]

/-- The largest of integers from a first one on does not depend on their order. -/
theorem foldl_larger_perm (h : ∀ a ∈ xs, a.IsIntegral) (hperm : xs.Perm ys) (start : Int) :
    xs.foldl larger (.integer start) = ys.foldl larger (.integer start) := by
  rw [foldl_larger_integral h, foldl_larger_integral fun a ha => h a (hperm.mem_iff.mpr ha),
    List.foldl_max, List.foldl_max, max?_perm (hperm.map toInt)]

/-- The sum of integers is their integer sum. -/
theorem sum_integral (h : ∀ a ∈ xs, a.IsIntegral) :
    sum xs = .ok (.integer (xs.map toInt).sum) := by
  conv_lhs => rw [← map_toInt h]
  rw [sum_integers, List.sum_eq_foldl]

/-- **The sum of integers** does not depend on their order. -/
theorem sum_perm (h : ∀ a ∈ xs, a.IsIntegral) (hperm : xs.Perm ys) : sum xs = sum ys := by
  rw [sum_integral h, sum_integral fun a ha => h a (hperm.mem_iff.mpr ha),
    (hperm.map toInt).sum_eq]

end RuleElements.Number
