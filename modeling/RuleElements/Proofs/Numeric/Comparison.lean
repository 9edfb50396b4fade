import Mathlib.Algebra.Order.Monoid.WithTop
import Mathlib.Order.WithBot
import RuleElements.Proofs.Numeric.Rounding

/-!
# The order of numbers

Integers and doubles are compared by exact value. All numbers but a NaN lie on one line, the
rationals with an infinity at each end, and to be below is to be below on the line. A NaN lies
nowhere on it: it is neither positive nor negative nor zero, and it is the only such number.

Main definitions:
* `Number.position`: where a number lies on the line.

Results:
* `lt_eq_true_iff`: to be below is to be below on the line.
* `sign_cases`: positive, negative and zero leave only a NaN.
-/

namespace RuleElements.Number

/-- **Where a number lies** on the line from one infinity to the other. The place of a NaN has no
meaning. -/
def position : Number → WithBot (WithTop ℚ)
  | .integer n => (((n : ℚ) : WithTop ℚ) : WithBot (WithTop ℚ))
  | .real .nan => 0
  | .real (.infinite true) => ⊥
  | .real (.infinite false) => ((⊤ : WithTop ℚ) : WithBot (WithTop ℚ))
  | .real (.finite s m e) => ((Binary64.scaled s m e : WithTop ℚ) : WithBot (WithTop ℚ))

theorem coe_lt_top (q : ℚ) : ((q : WithTop ℚ) : WithBot (WithTop ℚ)) < ⊤ :=
  WithBot.coe_lt_coe.mpr (WithTop.coe_lt_top q)

variable {a b : Number}

/-- **To be below is to be below on the line**, for two numbers that lie on it. -/
theorem lt_eq_true_iff :
    a.lt b = true ↔ a ≠ .real .nan ∧ b ≠ .real .nan ∧ a.position < b.position := by
  rcases a with n | _ | (_ | _) | ⟨s, m, e⟩ <;> rcases b with k | _ | (_ | _) | ⟨t, l, f⟩ <;>
    simp [lt, position, realLtInteger, integerLtReal, Binary64.lt, coe_lt_top]

/-! ## Signs -/

theorem isPositive_eq_true_iff : a.isPositive = true ↔ a ≠ .real .nan ∧ 0 < a.position := by
  unfold isPositive
  rw [lt_eq_true_iff]
  simp [position]

theorem isNegative_eq_true_iff : a.isNegative = true ↔ a ≠ .real .nan ∧ a.position < 0 := by
  unfold isNegative
  rw [lt_eq_true_iff]
  simp [position]

theorem isZero_eq_true_iff : a.isZero = true ↔ a ≠ .real .nan ∧ a.position = 0 := by
  rcases a with n | _ | (_ | _) | ⟨s, m, e⟩
  · simp [isZero, position]
  · simp [isZero, Binary64.isZero]
  · have htop : (0 : WithBot (WithTop ℚ)) < ⊤ := coe_lt_top 0
    simp [isZero, Binary64.isZero, position, htop.ne']
  · simp [isZero, Binary64.isZero, position]
  · have hzero : Binary64.scaled s m e = 0 ↔ m = 0 := by
      have hpow : (2 : ℚ) ^ e ≠ 0 := zpow_ne_zero e two_ne_zero
      rw [Binary64.scaled_eq]
      cases s <;> simp [hpow]
    simp [isZero, Binary64.isZero, position, hzero]

/-- **Positive, negative and zero** leave only a NaN. -/
theorem sign_cases (ha : a ≠ .real .nan) :
    a.isPositive = true ∨ a.isNegative = true ∨ a.isZero = true := by
  rw [isPositive_eq_true_iff, isNegative_eq_true_iff, isZero_eq_true_iff]
  rcases lt_trichotomy 0 a.position with h | h | h
  · exact .inl ⟨ha, h⟩
  · exact .inr (.inr ⟨ha, h.symm⟩)
  · exact .inr (.inl ⟨ha, h⟩)

theorem not_isNegative_of_isPositive (h : a.isPositive = true) : a.isNegative = false := by
  rw [Bool.eq_false_iff]
  intro hneg
  exact lt_asymm (isPositive_eq_true_iff.mp h).2 (isNegative_eq_true_iff.mp hneg).2

end RuleElements.Number
