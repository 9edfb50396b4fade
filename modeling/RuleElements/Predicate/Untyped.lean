import RuleElements.Data.Basic
import RuleElements.Data.Named
import RuleElements.Fault
import RuleElements.Log
import RuleElements.Predicate.Basic

/-!
# Unchecked predicates

A predicate as authored can be evaluated without being checked first. Texts are options, objects are
compounds with the keys `not`, `and` and `or`, and anything else is false and reported. A text in
the place of a list stands for its characters, and an object for its keys.

Main definitions:
* `Data.evaluateStatement`, `Data.evaluatePredicate`.
-/

namespace RuleElements

/-- The outcome of an evaluation, with what was reported on the way. -/
abbrev Verdict := Except Fault (Bool × List LogLine)

namespace Verdict

/-- A truth value with nothing reported. -/
def ofBool (b : Bool) : Verdict := .ok (b, [])

/-- The opposite. -/
def negate : Verdict → Verdict
  | .ok (b, log) => .ok (!b, log)
  | .error fault => .error fault

/-- The first verdict if it is `stop`, the second one otherwise. -/
def settledBy (stop : Bool) (first : Verdict) (second : Unit → Verdict) : Verdict :=
  match first with
  | .error fault => .error fault
  | .ok (b, log) =>
    if b = stop then .ok (b, log)
    else
      match second () with
      | .error fault => .error fault
      | .ok (c, more) => .ok (c, log ++ more)

end Verdict

namespace Data

/-- What an option statement for each of the texts gives, from the left until one is `stop`. -/
def evaluateTexts (ctx : Context) (stop : Bool) (texts : List String) : Verdict :=
  .ofBool (if stop then texts.any ctx.holds else texts.all ctx.holds)

mutual

/-- Whether a statement holds. -/
def evaluateStatement (ctx : Context) : Data → Verdict
  | .text s => .ofBool (ctx.holds s)
  | .object fields =>
    match negatedAt ctx fields with
    | some verdict => verdict
    | none =>
      match listedAt ctx false "and" fields with
      | some verdict => verdict
      | none => (listedAt ctx true "or" fields).getD (.ofBool true)
  | other =>
    .ok (false, [.warning .predicates ("Unsupported predicate statement " ++ other.display)])

/-- The opposite of the statement under `not`, if there is one. -/
def negatedAt (ctx : Context) : List (String × Data) → Option Verdict
  | [] => none
  | (key, value) :: rest =>
    if key = "not" then
      match value with
      | .null => none
      | value => some (evaluateStatement ctx value).negate
    else negatedAt ctx rest

/-- What the statements under a key give, if there are any. -/
def listedAt (ctx : Context) (stop : Bool) (wanted : String) :
    List (String × Data) → Option Verdict
  | [] => none
  | (key, value) :: rest =>
    if key = wanted then
      match value with
      | .null => none
      | .list items => some (evaluateItems ctx stop items)
      | .text s => some (evaluateTexts ctx stop (s.toList.map (String.ofList [·])))
      | .object fields => some (evaluateTexts ctx stop (Fields.names fields))
      | other => some (.error (.notIterable other.typeName))
    else listedAt ctx stop wanted rest

/-- The statements of a list, from the left until one gives `stop`. -/
def evaluateItems (ctx : Context) (stop : Bool) : List Data → Verdict
  | [] => .ofBool !stop
  | item :: rest => (evaluateStatement ctx item).settledBy stop fun _ => evaluateItems ctx stop rest

end

/-- Whether a predicate holds, which has named entries only; an empty value of any type does. -/
def evaluateNamed (ctx : Context) (p : Data) : Verdict :=
  if p.isEmpty then .ofBool true
  else
    match p with
    | .list items => evaluateItems ctx false items
    | .text s => evaluateTexts ctx false (s.toList.map (String.ofList [·]))
    | .object fields => evaluateTexts ctx false (Fields.names fields)
    | other => .error (.notIterable other.typeName)

/-- Whether a predicate holds. -/
def evaluatePredicate (ctx : Context) (p : Data) : Verdict := evaluateNamed ctx p.named

end Data

end RuleElements
