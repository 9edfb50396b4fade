import RuleElements.Aggregate
import RuleElements.Choice.Toggle

/-!
# Predicates without a context

A context may be missing. A predicate can still be evaluated as long as no option is looked up, and
fails as soon as one is.

Main definitions:
* `Predicate.check`: a predicate in a context that may be missing.
* `Aggregate.filterChecked`: the entries that apply in a context that may be missing.

Results:
* `Statement.check_some`: with a context nothing fails.
-/

namespace RuleElements

/-- A single option in a context that may be missing. -/
def Context.check : Option Context → String → Except Fault Bool
  | none, _ => .error .noContext
  | some ctx, option => .ok (ctx.holds option)

mutual

/-- A statement in a context that may be missing. -/
def Statement.check (ctx : Option Context) : Statement → Except Fault Bool
  | .option name => Context.check ctx name
  | .compound _ _ (some negated) => (negated.check ctx).map (!·)
  | .compound (some all) _ none => Statement.checkAll ctx all
  | .compound none (some any) none => Statement.checkAny ctx any
  | .compound none none none => .ok true

/-- The statements of a list, up to the first one that does not hold. -/
def Statement.checkAll (ctx : Option Context) : List Statement → Except Fault Bool
  | [] => .ok true
  | s :: rest =>
    match s.check ctx with
    | .ok true => Statement.checkAll ctx rest
    | other => other

/-- The statements of a list, up to the first one that holds. -/
def Statement.checkAny (ctx : Option Context) : List Statement → Except Fault Bool
  | [] => .ok false
  | s :: rest =>
    match s.check ctx with
    | .ok false => Statement.checkAny ctx rest
    | other => other

end

/-- A predicate that may be missing in a context that may be missing. -/
def Predicate.check (ctx : Option Context) : Option Predicate → Except Fault Bool
  | none => .ok true
  | some p => Statement.checkAll ctx p

/-- Whether something applies in a context that may be missing. -/
def Gated.check {α : Type} [Gated α] (ctx : Option Context) (a : α) : Except Fault Bool :=
  Predicate.check ctx (Gated.predicate a)

/-- The things that apply in a context that may be missing. -/
def Gated.filterChecked {α : Type} [Gated α] (ctx : Option Context) (as : List α) :
    Except Fault (List α) :=
  as.filterM (Gated.check ctx)

/-- Whether a roll option is in force in a context that may be missing. -/
def RollOption.checkActive (r : RollOption) (ctx : Option Context) : Except Fault Bool :=
  if r.enabled then Gated.check ctx r else .ok false

namespace Aggregate

/-- The entries that apply in a context that may be missing. -/
def filterChecked (ctx : Option Context) (a : Aggregate) : Except Fault Aggregate := do
  return {
    modifiers := ← Gated.filterChecked ctx a.modifiers
    damageDice := ← Gated.filterChecked ctx a.damageDice
    speeds := ← Gated.filterChecked ctx a.speeds
    senses := ← Gated.filterChecked ctx a.senses
    grantedItems := ← Gated.filterChecked ctx a.grantedItems
    choicePrompts := ← Gated.filterChecked ctx a.choicePrompts
    propertyChanges := ← Gated.filterChecked ctx a.propertyChanges
    rollOptions := ← Gated.filterChecked ctx a.rollOptions
    toggleProperties := ← Gated.filterChecked ctx a.toggleProperties
    weaponPotencies := ← Gated.filterChecked ctx a.weaponPotencies
    strikings := ← Gated.filterChecked ctx a.strikings
    tempHP := ← Gated.filterChecked ctx a.tempHP
    fastHealing := ← Gated.filterChecked ctx a.fastHealing
    resistances := ← Gated.filterChecked ctx a.resistances
    weaknesses := ← Gated.filterChecked ctx a.weaknesses
    immunities := ← Gated.filterChecked ctx a.immunities
    sizeChanges := ← Gated.filterChecked ctx a.sizeChanges
    traitChanges := ← Gated.filterChecked ctx a.traitChanges
    logs := a.logs }

/-- The options that an aggregate puts in force in a context that may be missing, each once. -/
def activeOptionsChecked (a : Aggregate) (ctx : Option Context) : Except Fault (List String) := do
  let options ← a.rollOptions.filterM (·.checkActive ctx)
  let toggles ← Gated.filterChecked ctx a.toggleProperties
  return (options.map (·.option) ++ toggles.flatMap (·.options)).eraseDups

end Aggregate

mutual

/-- With a context a statement does not fail. -/
theorem Statement.check_some (ctx : Context) :
    ∀ s : Statement, s.check (some ctx) = .ok (s.holds ctx)
  | .option _ => by simp [Statement.check, Statement.holds, Context.check]
  | .compound all any (some negated) => by
    simp [Statement.check, Statement.holds, Statement.check_some ctx negated, Except.map]
  | .compound (some all) any none => by
    simp [Statement.check, Statement.holds, Statement.checkAll_some ctx all]
  | .compound none (some any) none => by
    simp [Statement.check, Statement.holds, Statement.checkAny_some ctx any]
  | .compound none none none => by simp [Statement.check, Statement.holds]

theorem Statement.checkAll_some (ctx : Context) :
    ∀ p : List Statement, Statement.checkAll (some ctx) p = .ok (Statement.allHold ctx p)
  | [] => rfl
  | s :: rest => by
    simp only [Statement.checkAll, Statement.allHold, Statement.check_some ctx s]
    cases s.holds ctx
    · rfl
    · simpa using Statement.checkAll_some ctx rest

theorem Statement.checkAny_some (ctx : Context) :
    ∀ p : List Statement, Statement.checkAny (some ctx) p = .ok (Statement.anyHolds ctx p)
  | [] => rfl
  | s :: rest => by
    simp only [Statement.checkAny, Statement.anyHolds, Statement.check_some ctx s]
    cases s.holds ctx
    · simpa using Statement.checkAny_some ctx rest
    · rfl

end

end RuleElements
