import Mathlib.Data.List.Fold
import Mathlib.Data.List.Perm.Basic
import Mathlib.Tactic.Common
import RuleElements.Stacking.Basic

/-!
# The strongest of the integers on one side of zero

A bonus counts if no other of its type is higher, a penalty if none is lower. Both are the same
matter on two sides of zero: a fold that keeps the outer one of two integers, from zero on, does not
see what lies on the other side, nor order, zeros or repetitions.

Main definitions:
* `Stacking.Side`: the laws of one side, and the comparison that goes with it.
* `Stacking.bonusSide`, `Stacking.penaltySide`: the two sides.

Results:
* `Side.foldr_filter`: only the integers on the side matter.
* `Side.foldr_append`: neither zeros nor repetitions matter.
-/

namespace RuleElements.Stacking

/-- **A side of zero.** `outdoes` compares as `outer` chooses, and `outer` chooses integers on the
side over zero, and zero over all others. -/
structure Side (outdoes : Number → Number → Bool) (outer : Int → Int → Int) (on : Int → Bool) :
    Prop where
  choose : ∀ current next : Int,
    (if outdoes (.integer next) (.integer current) then next else current) = outer current next
  comm : ∀ a b, outer a b = outer b a
  assoc : ∀ a b c, outer (outer a b) c = outer a (outer b c)
  idem : ∀ a, outer a a = a
  of_on : ∀ a, on a = true → outer 0 a = a
  of_off : ∀ a, on a = false → outer 0 a = 0

/-- The bonuses: the higher one counts. -/
theorem bonusSide : Side (fun next current => current.lt next) max (fun n => decide (0 < n)) where
  choose current next := by
    simp only [Number.lt_integer, decide_eq_true_eq]
    omega
  comm := Int.max_comm
  assoc := Int.max_assoc
  idem := Int.max_self
  of_on a h := by
    have := of_decide_eq_true h
    omega
  of_off a h := by
    have := of_decide_eq_false h
    omega

/-- The penalties: the lower one counts. -/
theorem penaltySide : Side Number.lt min (fun n => decide (n < 0)) where
  choose current next := by
    simp only [Number.lt_integer, decide_eq_true_eq]
    omega
  comm := Int.min_comm
  assoc := Int.min_assoc
  idem := Int.min_self
  of_on a h := by
    have := of_decide_eq_true h
    omega
  of_off a h := by
    have := of_decide_eq_false h
    omega

namespace Side

variable {outdoes : Number → Number → Bool} {outer : Int → Int → Int} {on : Int → Bool}

theorem left_comm (side : Side outdoes outer on) (a b c : Int) :
    outer a (outer b c) = outer b (outer a c) := by
  rw [← side.assoc, side.comm a b, side.assoc]

/-- A fold from zero has taken account of zero. -/
theorem outer_zero (side : Side outdoes outer on) : ∀ xs : List Int,
    outer 0 (xs.foldr outer 0) = xs.foldr outer 0
  | [] => side.idem 0
  | x :: xs => by
    rw [List.foldr_cons, side.left_comm, side.outer_zero xs]

/-- A fold from zero has taken account of what is off the side. -/
theorem outer_of_off (side : Side outdoes outer on) {x : Int} (h : on x = false) (xs : List Int) :
    outer x (xs.foldr outer 0) = xs.foldr outer 0 := by
  calc outer x (xs.foldr outer 0)
      = outer x (outer 0 (xs.foldr outer 0)) := by rw [side.outer_zero]
    _ = outer (outer 0 x) (xs.foldr outer 0) := by rw [side.left_comm, side.assoc]
    _ = xs.foldr outer 0 := by rw [side.of_off x h, side.outer_zero]

/-- A fold has taken account of each of its integers. -/
theorem outer_of_mem (side : Side outdoes outer on) {x : Int} : ∀ {xs : List Int}, x ∈ xs →
    outer x (xs.foldr outer 0) = xs.foldr outer 0
  | y :: ys, h => by
    rw [List.foldr_cons]
    rcases List.mem_cons.mp h with rfl | hmem
    · rw [← side.assoc, side.idem]
    · rw [side.left_comm, side.outer_of_mem hmem]

/-- **Only the integers on the side matter.** -/
theorem foldr_filter (side : Side outdoes outer on) : ∀ xs : List Int,
    (xs.filter on).foldr outer 0 = xs.foldr outer 0
  | [] => rfl
  | x :: xs => by
    cases hx : on x with
    | true =>
      rw [List.filter_cons_of_pos hx, List.foldr_cons, List.foldr_cons, side.foldr_filter xs]
    | false =>
      rw [List.filter_cons_of_neg (by simp [hx]), List.foldr_cons, side.outer_of_off hx,
        side.foldr_filter xs]

/-- The order does not matter. -/
theorem foldr_perm (side : Side outdoes outer on) {xs ys : List Int} (h : xs.Perm ys) :
    xs.foldr outer 0 = ys.foldr outer 0 :=
  h.foldr_eq' (fun x _ y _ z => side.left_comm y x z) 0

/-- One more integer is chosen from last. -/
theorem foldr_concat (side : Side outdoes outer on) (xs : List Int) (x : Int) :
    (xs ++ [x]).foldr outer 0 = outer x (xs.foldr outer 0) :=
  side.foldr_perm (List.perm_append_singleton x xs)

/-- **Neither zeros nor repetitions matter.** -/
theorem foldr_append (side : Side outdoes outer on) {xs : List Int} : ∀ {ys : List Int},
    (∀ y ∈ ys, y = 0 ∨ y ∈ xs) → (xs ++ ys).foldr outer 0 = xs.foldr outer 0
  | [], _ => by rw [List.append_nil]
  | y :: ys, h => by
    have hrest : (xs ++ ys).foldr outer 0 = xs.foldr outer 0 :=
      side.foldr_append fun z hz => h z (List.mem_cons_of_mem _ hz)
    rw [side.foldr_perm List.perm_middle, List.foldr_cons, hrest]
    rcases h y List.mem_cons_self with rfl | hmem
    · exact side.outer_zero xs
    · exact side.outer_of_mem hmem

/-- A fold over integers on the side can start from the first of them. -/
theorem foldl_eq_foldr (side : Side outdoes outer on) {x : Int} (hx : on x = true)
    (xs : List Int) : xs.foldl outer x = (x :: xs).foldr outer 0 := by
  have : Std.Commutative outer := ⟨side.comm⟩
  have : Std.Associative outer := ⟨side.assoc⟩
  rw [← List.foldl_eq_foldr, List.foldl_cons, side.of_on x hx]

end Side

end RuleElements.Stacking
