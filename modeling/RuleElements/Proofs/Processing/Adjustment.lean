import RuleElements.Proofs.Aggregate.Bucket
import RuleElements.Proofs.Faulting
import RuleElements.Proofs.Formula.Grammar

/-!
# What an adjustment does to the pool

An adjustment changes the modifiers it fits, one by one and each on its own, so it acts on the two
parts of a joined list apart. It leaves the outline of every modifier alone, and it fails exactly
when its own formula cannot be read for its many digits or is too large at the level, or when its
arithmetic meets an unmixable pair.

Main definitions:
* `AdjustModifierRule.readjust`: the pool after an adjustment at a level.
* `AdjustModifierRule.Overflows`: the ways in which an adjustment fails.

Results:
* `AdjustModifierRule.readjust_append`: an adjustment acts on the parts of a list apart.
* `AdjustModifierRule.readjust_outline`: it keeps all outlines, in order.
* `AdjustModifierRule.readjust_fails_iff`: when it fails.
-/

namespace RuleElements.AdjustModifierRule

variable {rule : AdjustModifierRule} {level : Int} {change : Number}

/-- The modifiers after an adjustment at a level. An operand that cannot be resolved changes
nothing. -/
def readjust (rule : AdjustModifierRule) (level : Int) (modifiers : List Modifier) :
    Except ArithmeticFault (List Modifier) :=
  match rule.change level with
  | .made change => rule.adjust change modifiers
  | .inert _ => .ok modifiers
  | .failed fault => .error fault

/-! ## One modifier -/

/-- A modifier keeps its outline. -/
theorem adjustOne_outline {m n : Modifier} (h : rule.adjustOne change m = .ok n) :
    n.outline = m.outline := by
  unfold adjustOne at h
  split at h
  · obtain ⟨value, -, rfl⟩ := Faulting.map_eq_ok.mp h
    rfl
  · cases h
    rfl

theorem adjustOne_eq_error_iff (m : Modifier) (fault : ArithmeticFault) :
    rule.adjustOne change m = .error fault ↔
      fault = .integerTooLarge ∧ rule.fits m = true ∧ (rule.mode.getD .add).Calculates ∧
        m.value.Unmixable change := by
  unfold adjustOne
  split
  · rename_i hfits
    rw [Faulting.map_eq_error, AdjustMode.apply_eq_error_iff]
    simp only [hfits, true_and]
  · rename_i hfits
    simp only [hfits, reduceCtorEq, false_and, and_false]

/-! ## A list of modifiers -/

/-- An adjustment acts on the parts of a list apart. -/
theorem readjust_append {ms ns out : List Modifier} :
    rule.readjust level (ms ++ ns) = .ok out ↔
      ∃ ms' ns', rule.readjust level ms = .ok ms' ∧ rule.readjust level ns = .ok ns' ∧
        out = ms' ++ ns' := by
  unfold readjust
  cases rule.change level with
  | made change => exact Faulting.mapM_append_eq_ok
  | inert reasons => simp [eq_comm]
  | failed fault => simp

/-- All outlines are kept, in order. -/
theorem readjust_outline {ms out : List Modifier} (h : rule.readjust level ms = .ok out) :
    out.map Modifier.outline = ms.map Modifier.outline := by
  unfold readjust at h
  split at h
  · exact Faulting.map_of_mapM adjustOne_outline h
  · cases h
    rfl
  · cases h

/-! ## Failure -/

/-- The ways in which an adjustment of a list of modifiers fails at a level. -/
inductive Overflows (rule : AdjustModifierRule) (level : Int) (ms : List Modifier) : Prop
  /-- its operand has the form of a formula, with too many digits to be read -/
  | digits {s : String} {count : Nat} (value : rule.value = some (.text s))
      (unread : Formula.Oversized count (Text.strip s).toList)
  /-- its operand spells a formula that is too large at the level -/
  | operand {s : String} {formula : Formula} (value : rule.value = some (.text s))
      (spells : Formula.parse? s = some formula) (tooLarge : formula.TooLargeAt level)
  /-- it calculates, and with a modifier that it fits its number is an unmixable pair -/
  | arithmetic {change : Number} {m : Modifier} (resolved : rule.change level = .made change)
      (calculates : (rule.mode.getD .add).Calculates) (member : m ∈ ms)
      (fits : rule.fits m = true) (unmixable : m.value.Unmixable change)

theorem change_eq_failed_iff (fault : ArithmeticFault) :
    rule.change level = .failed fault ↔
      ∃ s, rule.value = some (.text s) ∧ (Formula.parse s = .error fault ∨
        ∃ formula, Formula.parse? s = some formula ∧ fault = formula.fault ∧
          formula.TooLargeAt level) := by
  unfold change
  cases rule.value with
  | none => simp
  | some value => simp [Operand.resolve_eq_failed_iff]

/-- **Failure.** An adjustment fails exactly on an overflow. -/
theorem readjust_fails_iff (ms : List Modifier) :
    (∃ fault, rule.readjust level ms = .error fault) ↔ rule.Overflows level ms := by
  unfold readjust
  constructor
  · rintro ⟨fault, h⟩
    split at h
    · rename_i change hchange
      obtain ⟨m, hmem, fault', hm⟩ := Faulting.mapM_fails_iff.mp ⟨fault, h⟩
      obtain ⟨-, hfits, hcalc, hpair⟩ := (adjustOne_eq_error_iff m fault').mp hm
      exact .arithmetic hchange hcalc hmem hfits hpair
    · cases h
    · rename_i fault' hchange
      obtain ⟨s, hvalue, hunread | ⟨formula, hspells, -, hlarge⟩⟩ :=
        (change_eq_failed_iff fault').mp hchange
      · obtain ⟨count, -, hmany⟩ := Formula.parse_eq_error_iff.mp hunread
        exact .digits hvalue hmany
      · exact .operand hvalue hspells hlarge
  · rintro (⟨hvalue, hmany⟩ | ⟨hvalue, hspells, hlarge⟩ | ⟨hchange, hcalc, hmem, hfits, hpair⟩)
    · have hunread := Formula.parse_eq_error_iff.mpr ⟨_, rfl, hmany⟩
      rw [(change_eq_failed_iff _).mpr ⟨_, hvalue, .inl hunread⟩]
      exact ⟨_, rfl⟩
    · rw [(change_eq_failed_iff _).mpr ⟨_, hvalue, .inr ⟨_, hspells, rfl, hlarge⟩⟩]
      exact ⟨_, rfl⟩
    · rw [hchange]
      exact Faulting.mapM_fails_iff.mpr
        ⟨_, hmem, _, (adjustOne_eq_error_iff _ _).mpr ⟨rfl, hfits, hcalc, hpair⟩⟩

end RuleElements.AdjustModifierRule
