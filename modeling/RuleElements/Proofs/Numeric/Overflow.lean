import RuleElements.Formula
import RuleElements.Processing.Adjustment
import RuleElements.Proofs.Numeric.Rounding

/-!
# Where arithmetic fails

Arithmetic fails in four places only: an integer meets a double and is too large to become one, a
formula over the level has a value that is too large, the number in a formula has too many digits to
be read, or an infinity or a NaN is to be cut down to an integer. This module states the first two
exactly, by magnitudes, and shows that the value of a rule element fails in the second and third way
only.

Main definitions:
* `Number.Unmixable`: an integer and a double, the integer too large for a double.
* `Formula.TooLargeAt`: the formulas that fail at a level.

Results:
* `Number.combine_eq_error_iff`, `AdjustMode.apply_eq_error_iff`: sums, products and adjustments.
* `Formula.evaluate_eq_error_iff`, `Operand.resolve_eq_failed_iff`: values of rule elements.
-/

namespace RuleElements

/-! ## Sums and products -/

namespace Number

/-- An integer and a double, of which the integer is too large for a double. -/
def Unmixable : Number → Number → Prop
  | .integer n, .real _ => Binary64.overflowBound ≤ n.natAbs
  | .real _, .integer n => Binary64.overflowBound ≤ n.natAbs
  | .integer _, .integer _ => False
  | .real _, .real _ => False

/-- Arithmetic on two numbers fails exactly on an unmixable pair. -/
theorem combine_eq_error_iff (onIntegers : Int → Int → Int)
    (onReals : Binary64 → Binary64 → Binary64) (a b : Number) (fault : ArithmeticFault) :
    combine onIntegers onReals a b = .error fault ↔
      fault = .integerTooLarge ∧ Unmixable a b := by
  have herror (n : Int) (f : Binary64 → Number) :
      (Binary64.ofInt? n).map f = .error fault ↔ Binary64.ofInt? n = .error fault := by
    cases Binary64.ofInt? n <;> simp [Except.map]
  cases a <;> cases b <;> simp only [combine, Unmixable, reduceCtorEq, and_false]
  · rw [herror, Binary64.ofInt?_eq_error_iff]
  · rw [herror, Binary64.ofInt?_eq_error_iff]

end Number

namespace AdjustMode

/-- The modes that calculate with both numbers. -/
def Calculates : AdjustMode → Prop
  | .add => True
  | .multiply => True
  | .override => False
  | .upgrade => False
  | .downgrade => False

/-- An adjustment of one number fails exactly on an unmixable pair, in a mode that calculates. -/
theorem apply_eq_error_iff (mode : AdjustMode) (current change : Number)
    (fault : ArithmeticFault) :
    mode.apply current change = .error fault ↔
      fault = .integerTooLarge ∧ mode.Calculates ∧ Number.Unmixable current change := by
  cases mode <;>
    simp only [apply, Number.add, Number.mul, Number.combine_eq_error_iff, Calculates, true_and,
      false_and, and_false, reduceCtorEq]

end AdjustMode

/-! ## Formulas over the level -/

namespace Formula

/-- The formulas whose value at a level is too large for a double. -/
def TooLargeAt (level : Int) : Formula → Prop
  | .level => Binary64.overflowBound ≤ level.natAbs
  | .product factor => Binary64.overflowBound ≤ (level * factor).natAbs
  | .quotient divisor => divisor * Binary64.overflowBound ≤ level.natAbs

/-- How a formula fails. -/
def fault : Formula → ArithmeticFault
  | .quotient _ => .quotientTooLarge
  | .level => .integerTooLarge
  | .product _ => .integerTooLarge

theorem throughReal_eq_error_iff (n : Int) (fault : ArithmeticFault) :
    throughReal n = .error fault ↔
      fault = .integerTooLarge ∧ Binary64.overflowBound ≤ n.natAbs := by
  rw [← Binary64.ofInt?_eq_error_iff]
  unfold throughReal
  cases Binary64.ofInt? n <;> simp [Except.map]

/-- **Formulas.** A formula fails at a level exactly when its value is too large; the floor of a
quotient never fails on its own. -/
theorem evaluate_eq_error_iff {formula : Formula} (level : Int) (f : ArithmeticFault)
    (hpos : ∀ divisor, formula = .quotient divisor → 0 < divisor) :
    formula.evaluate level = .error f ↔ f = formula.fault ∧ formula.TooLargeAt level := by
  cases formula with
  | level => exact throughReal_eq_error_iff level f
  | product factor => exact throughReal_eq_error_iff (level * factor) f
  | quotient divisor =>
    have hd := hpos divisor rfl
    have hquot := Binary64.ofQuotient?_eq_error_iff level hd f
    unfold evaluate TooLargeAt fault
    rw [← hquot]
    cases hx : Binary64.ofQuotient? level divisor with
    | error g => simp only [hx, Except.error.injEq]
    | ok x =>
      have := Binary64.floor_natAbs_lt hd hx
      simp only [hx, throughReal_eq_error_iff, reduceCtorEq, iff_false]
      omega

/-- A spelled formula fails at a level exactly when its value is too large. -/
theorem evaluate_parsed_eq_error_iff {s : String} {formula : Formula}
    (h : parse? s = some formula) (level : Int) (f : ArithmeticFault) :
    formula.evaluate level = .error f ↔ f = formula.fault ∧ formula.TooLargeAt level :=
  evaluate_eq_error_iff level f fun _ hq => parse?_quotient_pos (hq ▸ h)

/-- What is read as a formula, or has too many digits for one, begins with the name of the level, so
it is no plain decimal. -/
theorem readNumeral?_of_parse {s : String} (h : parse s ≠ .ok none) :
    readNumeral? (Text.trimWhere Text.isBlank s.toList) = none := by
  unfold parse at h
  simp only at h
  generalize Text.trimWhere Text.isBlank s.toList = cs at *
  split at h
  · rename_i hname
    obtain ⟨rest, rfl⟩ := List.isPrefixOf_iff_prefix.mp hname
    have hat : Text.decimalValue? '@' = none := by decide +kernel
    have hname : levelName = '@' :: "actor.level".toList := by decide
    rw [hname, List.cons_append]
    generalize "actor.level".toList ++ rest = tail
    have hexp : Decimal.scanExponent Text.decimalValue? ('@' :: tail) = (none, '@' :: tail) := by
      unfold Decimal.scanExponent
      split
      all_goals
        rename_i heq
        cases heq <;> rfl
    simp [readNumeral?, Decimal.scanSign, Decimal.scan, Decimal.scanDigits, hat, hexp]
  · exact absurd rfl h

end Formula

/-! ## Operands -/

namespace Operand

variable {level : Int} {s : String}

/-- A text that is read as a formula comes to the value of the formula. -/
theorem resolveText_of_parse? {formula : Formula} (h : Formula.parse? s = some formula) :
    resolveText level s = .ofArithmetic (formula.evaluate level) := by
  have hparse := Formula.parse?_eq_some.mp h
  have hnumeral := Formula.readNumeral?_of_parse (s := s) (by rw [hparse]; nofun)
  unfold resolveText
  simp only [hnumeral, hparse]

/-- A text that fails to be read as a formula fails to have a value. -/
theorem resolveText_of_parse_error {fault : ArithmeticFault} (h : Formula.parse s = .error fault) :
    resolveText level s = .failed fault := by
  have hnumeral := Formula.readNumeral?_of_parse (s := s) (by rw [h]; nofun)
  unfold resolveText
  simp only [hnumeral, h]

/-- **Operands.** The value of a rule element fails at a level exactly when it is a text with too
many digits to be read, or spells a formula that is too large there. -/
theorem resolve_eq_failed_iff (value : Operand) (level : Int) (f : ArithmeticFault) :
    value.resolve level = .failed f ↔
      ∃ s, value = .text s ∧ (Formula.parse s = .error f ∨
        ∃ formula, Formula.parse? s = some formula ∧ f = formula.fault ∧
          formula.TooLargeAt level) := by
  constructor
  · intro h
    cases value with
    | number n => cases h
    | text s =>
      refine ⟨s, rfl, ?_⟩
      change resolveText level s = .failed f at h
      cases hparse : Formula.parse s with
      | error fault =>
        rw [resolveText_of_parse_error hparse] at h
        cases h
        exact .inl rfl
      | ok found =>
        cases found with
        | none =>
          unfold resolveText at h
          rw [hparse] at h
          split at h <;> cases h
        | some formula =>
          have hspells := Formula.parse?_eq_some.mpr hparse
          rw [resolveText_of_parse? hspells] at h
          refine .inr ⟨formula, hspells, ?_⟩
          rw [← Formula.evaluate_parsed_eq_error_iff hspells]
          exact Attempt.ofArithmetic_eq_failed.mp h
  · rintro ⟨s, rfl, hparse | ⟨formula, hparse, hfault⟩⟩
    · exact resolveText_of_parse_error hparse
    · have hval := (Formula.evaluate_parsed_eq_error_iff hparse level f).mpr hfault
      show resolveText level s = .failed f
      rw [resolveText_of_parse? hparse]
      exact Attempt.ofArithmetic_eq_failed.mpr hval

end Operand

end RuleElements
