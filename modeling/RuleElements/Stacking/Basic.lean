import RuleElements.Entry.Basic
import RuleElements.Fault

/-!
# Stacking

Modifiers of one typed kind do not stack: of the status, circumstance and item modifiers only the
highest bonus and the lowest penalty of each type count, the first one among equals. Untyped
modifiers all count.

Modifiers are told apart by their places in a list, since two of them may be equal in every field.

Main definitions:
* `Placed`: a modifier with its place.
* `Stacking.bonuses`, `Stacking.penalties`: the modifiers that count.
* `Stacking.total`: the sum of the bonuses plus the sum of the penalties.
* `Stacking.apply`: the modifiers in force, split into those that count and those that do not.
* `Stacking.wouldStack`: whether a further modifier would change the total.
* `Stacking.explain`: a line for each modifier.
* `Statistic`: a base value with the modifiers aimed at it.
-/

namespace RuleElements

/-- A modifier with its place in the list that it comes from. -/
structure Placed where
  place : Nat
  modifier : Modifier
  deriving Repr, Inhabited

/-- The modifiers of a list with their places. -/
def Placed.ofList (ms : List Modifier) : List Placed :=
  ms.zipIdx.map fun (m, place) => ⟨place, m⟩

/-- Types of which only one bonus and one penalty count. -/
def ModifierType.isExclusive : ModifierType → Bool
  | .untyped => false
  | _ => true

/-- Whether a modifier is switched on and applies; without a context it is checked against the empty
one. -/
def Modifier.isInForce (m : Modifier) (ctx : Option Context) : Bool :=
  m.enabled && Gated.applies (ctx.getD {}) m

namespace Stacking

/-- The types that occur, in the order of their first occurrence. -/
def types (ms : List Placed) : List ModifierType := (ms.map (·.modifier.type)).eraseDups

/-- The modifiers of a type. -/
def ofType (ms : List Placed) (type : ModifierType) : List Placed :=
  ms.filter (·.modifier.type == type)

/-- The modifiers by their type. -/
def groups (ms : List Placed) : List (ModifierType × List Placed) :=
  (types ms).map fun type => (type, ofType ms type)

/-- The one of two modifiers that outdoes the other by `outdoes`; the first one if neither does. -/
def better (outdoes : Number → Number → Bool) (current next : Placed) : Placed :=
  if outdoes next.modifier.value current.modifier.value then next else current

/-- The best modifier, the first one among equals. -/
def best? (outdoes : Number → Number → Bool) : List Placed → Option Placed
  | [] => none
  | m :: rest => some (rest.foldl (better outdoes) m)

/-- The modifiers of a type that count. -/
def counted (outdoes : Number → Number → Bool) (type : ModifierType) (ms : List Placed) :
    List Placed :=
  if type.isExclusive then (best? outdoes ms).toList else ms

/-- The modifiers that count among those of one sign. -/
def pick (outdoes : Number → Number → Bool) (ms : List Placed) : List Placed :=
  (groups ms).flatMap fun (type, group) => counted outdoes type group

/-- The bonuses that count. -/
def bonuses (ms : List Placed) : List Placed :=
  pick (fun next current => current.lt next) (ms.filter (·.modifier.isBonus))

/-- The penalties that count. -/
def penalties (ms : List Placed) : List Placed :=
  pick Number.lt (ms.filter (·.modifier.isPenalty))

/-- The modifiers that count: bonuses, then penalties. -/
def applied (ms : List Placed) : List Placed := bonuses ms ++ penalties ms

/-- The sum of the values of modifiers. -/
def sum (ms : List Placed) : Except ArithmeticFault Number := Number.sum (ms.map (·.modifier.value))

/-- The total of a list of modifiers. -/
def total (ms : List Placed) : Except ArithmeticFault Number :=
  (sum (bonuses ms)).bind fun bonus => (sum (penalties ms)).bind bonus.add

/-- The total of a list of modifiers. -/
def totalOf (ms : List Modifier) : Except ArithmeticFault Number := total (Placed.ofList ms)

/-- Whether a modifier is one of the given ones. -/
def isAmong (m : Placed) (ms : List Placed) : Bool := ms.any (·.place == m.place)

/-- Modifiers in force: their total, those that count, and those that do not. -/
structure Outcome where
  total : Number
  applied : List Placed
  suppressed : List Placed

/-- What the modifiers in force come to in a context. -/
def apply (ms : List Placed) (ctx : Option Context) : Except ArithmeticFault Outcome :=
  let active := ms.filter (·.modifier.isInForce ctx)
  let counting := applied active
  (sum counting).map fun total =>
    { total, applied := counting, suppressed := active.filter (!isAmong · counting) }

/-- Whether a further modifier would change the total. -/
def wouldStack (new : Modifier) (existing : List Modifier) : Bool :=
  if new.value.isZero then false
  else if !new.type.isExclusive then true
  else
    let same := existing.filter (·.type == new.type)
    if new.isBonus then (same.filter (·.isBonus)).all (·.value.lt new.value)
    else (same.filter (·.isPenalty)).all fun m => new.value.lt m.value

/-! ## Explaining stacking

One line for each modifier says whether it counts, has no effect, or is suppressed, and by which
modifier.
-/

/-- How a modifier is shown. -/
def tag (m : Modifier) : String :=
  m.value.signedText ++ " " ++ m.label ++ " (" ++ Worded.word m.type ++ ", " ++ m.source ++ ")"

/-- The modifier that suppresses another one: the first that counts, of the same type, and like it a
bonus or not. -/
def winner? (counting : List Placed) (m : Placed) : Option Placed :=
  counting.find? fun a =>
    a.modifier.type == m.modifier.type && a.modifier.isBonus == m.modifier.isBonus

/-- The line of a modifier. -/
def line (counting : List Placed) (m : Placed) : Except Fault String :=
  if isAmong m counting then .ok ("[Stack] " ++ tag m.modifier ++ " applies")
  else if m.modifier.value.isZero then .ok ("[Stack] " ++ tag m.modifier ++ " has no effect")
  else
    match winner? counting m with
    | none => .error .noWinner
    | some winner =>
      .ok ("[Stack] " ++ tag m.modifier ++ " suppressed by " ++ winner.modifier.label ++ " " ++
        winner.modifier.value.signedText)

/-- The lines of a list of modifiers. -/
def explain (ms : List Placed) : Except Fault (List String) := ms.mapM (line (applied ms))

/-- The lines of a list of modifiers. -/
def explainList (ms : List Modifier) : Except Fault (List String) := explain (Placed.ofList ms)

/-- A base value with the total of modifiers added. -/
def valueOn (base : Number) (ms : List Modifier) : Except ArithmeticFault Number :=
  (totalOf ms).bind base.add

end Stacking

/-- A base value with the modifiers aimed at it. -/
structure Statistic where
  selector : String
  base : Number := .integer 0
  modifiers : List Modifier := []
  label : Option String := none
  deriving Repr, Inhabited

namespace Statistic

/-- The base value with the modifiers that count added. -/
def total (s : Statistic) : Except ArithmeticFault Number := Stacking.valueOn s.base s.modifiers

/-- How the total comes about. -/
def breakdown (s : Statistic) : Except Fault (List String) := do
  let lines ← Stacking.explainList s.modifiers
  let total ← Fault.ofArithmetic s.total
  return ("Base " ++ s.base.text) :: lines ++ ["Total " ++ total.text]

end Statistic

end RuleElements
