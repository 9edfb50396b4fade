import RuleElements.Aggregate
import RuleElements.Processing.Label
import RuleElements.Stacking.Basic

/-!
# Modifiers by selector

The modifiers of an aggregate are aimed at selectors. A statistic collects those aimed at its
selector, and at further selectors that it includes, that are in force in a context.

Main definitions:
* `Aggregate.modifiersFor`, `Aggregate.statistic`, `Aggregate.valueOf`.
* `Aggregate.explainAll`, `Aggregate.differences`: overviews over many selectors.
-/

namespace RuleElements

/-- Different texts in the order of their code points. -/
def sortedTexts (ss : List String) : List String := ss.eraseDups.mergeSort (fun a b => !(b < a))

namespace Aggregate

/-- The selectors that modifiers are aimed at, in order. -/
def selectors (a : Aggregate) : List String := sortedTexts (a.modifiers.map (·.selector))

/-- The modifiers in force that are aimed at a selector or at one of those included. -/
def modifiersFor (a : Aggregate) (ctx : Option Context) (selector : String)
    (included : List String) : List Modifier :=
  a.modifiers.filter fun m =>
    (m.selector == selector || included.contains m.selector) && m.isInForce ctx

/-- What the modifiers aimed at a selector add. -/
def totalOf (a : Aggregate) (ctx : Option Context) (selector : String)
    (included : List String) : Except ArithmeticFault Number :=
  Stacking.totalOf (a.modifiersFor ctx selector included)

/-- A base value with what the modifiers aimed at a selector add. -/
def valueOf (a : Aggregate) (ctx : Option Context) (selector : String) (base : Number)
    (included : List String) : Except ArithmeticFault Number :=
  Stacking.valueOn base (a.modifiersFor ctx selector included)

/-- The statistic of a selector. -/
def statistic (a : Aggregate) (ctx : Option Context) (selector : String) (base : Number)
    (included : List String) : Statistic where
  selector
  base
  modifiers := a.modifiersFor ctx selector included
  label := some (Label.ofSelector selector)

/-- How the value of a selector on a base comes about. -/
def trace (a : Aggregate) (ctx : Option Context) (selector : String) (base : Number) :
    Except Fault (List String) := do
  let ms := a.modifiersFor ctx selector []
  let lines ← Stacking.explainList ms
  let total ← Fault.ofArithmetic (Stacking.valueOn base ms)
  return ("[Stack] base " ++ base.text) :: lines ++ ["[Stack] total " ++ total.text]

/-- How the values of the given selectors, or of all, come about on their bases. -/
def explainAll (a : Aggregate) (ctx : Option Context) (wanted : Option (List String))
    (bases : List (String × Number)) : Except Fault (List (String × List String)) := do
  let lines ← (wanted.getD a.selectors).mapM fun selector => do
    let base := (Fields.get? bases selector).getD (.integer 0)
    return (selector, ← a.trace ctx selector base)
  return Fields.ofPairs lines

/-- The selectors whose totals differ between two contexts, with both totals. -/
def differences (a b : Aggregate) (ctx other : Option Context) :
    Except ArithmeticFault (List (String × Number × Number)) := do
  let pairs ← (sortedTexts (a.selectors ++ b.selectors)).mapM fun selector => do
    let x ← a.totalOf ctx selector []
    let y ← b.totalOf other selector []
    return (selector, x, y)
  return pairs.filter fun (_, x, y) => !x.same y

end Aggregate

end RuleElements
