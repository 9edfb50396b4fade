import RuleElements.Processing.Element

/-!
# Adjustments

An adjustment changes the modifiers that came before it: those with its selector and, if it has a
slug, with the slug in their label or source, whatever the case of the letters. A changed modifier
names the adjustment in its source.

Main definitions:
* `AdjustModifierRule.fits`: whether an adjustment concerns a modifier.
* `AdjustModifierRule.adjust`: the modifiers after an adjustment by a number.

Results:
* `AdjustModifierRule.adjust_of_no_fit`: an adjustment that concerns nothing changes nothing.
-/

namespace RuleElements

/-- A number after an adjustment by another one. -/
def AdjustMode.apply (mode : AdjustMode) (current change : Number) :
    Except ArithmeticFault Number :=
  match mode with
  | .add => current.add change
  | .multiply => current.mul change
  | .override => .ok change
  | .upgrade => .ok (current.larger change)
  | .downgrade => .ok (current.smaller change)

/-- A number after an adjustment with the given word; any other word adds. -/
def AdjustMode.applyWord (word : String) (current change : Number) :
    Except ArithmeticFault Number :=
  ((Worded.ofWord? word).getD AdjustMode.add).apply current change

namespace AdjustModifierRule

/-- Whether a slug stands in a text, whatever the case of the letters. -/
def slugIn (slug text : String) : Bool := Text.contains (Text.lower text) (Text.lower slug)

/-- Whether an adjustment concerns a modifier. -/
def fits (rule : AdjustModifierRule) (m : Modifier) : Bool :=
  m.selector == rule.selector &&
    match nonEmpty? rule.slug with
    | none => true
    | some slug => slugIn slug m.label || slugIn slug m.source

/-- The source of a modifier after an adjustment. -/
def adjustedSource (source : String) : String := source ++ " (adjusted)"

/-- A modifier after an adjustment by a number. -/
def adjustOne (rule : AdjustModifierRule) (change : Number) (m : Modifier) :
    Except ArithmeticFault Modifier :=
  if rule.fits m then
    ((rule.mode.getD .add).apply m.value change).map fun value =>
      { m with value, source := adjustedSource m.source }
  else .ok m

/-- The modifiers after an adjustment by a number. -/
def adjust (rule : AdjustModifierRule) (change : Number) (modifiers : List Modifier) :
    Except ArithmeticFault (List Modifier) :=
  modifiers.mapM (rule.adjustOne change)

/-- The number by which a rule adjusts at a level; zero if it names none. -/
def change (rule : AdjustModifierRule) (level : Int) : Attempt Number :=
  match rule.value with
  | none => .made (.integer 0)
  | some value => value.resolve level

/-- What an adjustment did to the modifiers. -/
inductive Outcome
  /-- the number by which to adjust could not be resolved -/
  | unresolved (reasons : List LogLine)
  /-- no modifier is concerned -/
  | unmatched
  | applied (modifiers : List Modifier)

/-- What an adjustment does to the modifiers at a level. Whether a modifier is concerned is looked
at first, and the number by which to adjust only if there is one. -/
def run (rule : AdjustModifierRule) (level : Int) (modifiers : List Modifier) :
    Except ArithmeticFault Outcome :=
  if modifiers.any rule.fits then
    match rule.change level with
    | .failed fault => .error fault
    | .inert reasons => .ok (.unresolved reasons)
    | .made change => (rule.adjust change modifiers).map .applied
  else .ok .unmatched

/-- An adjustment that concerns nothing changes nothing. -/
theorem adjust_of_no_fit (rule : AdjustModifierRule) (change : Number) {modifiers : List Modifier}
    (h : modifiers.any rule.fits = false) : rule.adjust change modifiers = .ok modifiers := by
  unfold adjust
  induction modifiers with
  | nil => rfl
  | cons m rest ih =>
    simp only [List.any_cons, Bool.or_eq_false_iff] at h
    rw [List.mapM_cons, ih h.2]
    simp [adjustOne, h.1, bind, Except.bind, pure, Except.pure]

end AdjustModifierRule

end RuleElements
