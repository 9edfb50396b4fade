import RuleElements.Element.Reader

/-!
# Linting

What can be said about a payload before it is processed: it is not understood, its value is a text
that is neither a number nor a formula, or it lacks what it would give. A value that cannot be read
for its many digits ends the search with a fault.

Main definitions:
* `Effect.valueText?`: the value of an effect, if it is a text.
* `Linting`: what linting finds.
* `ParsedElement.lint`: the linting of a payload.
-/

namespace RuleElements

/-- The text of an operand. -/
def Operand.text? : Operand → Option String
  | .number _ => none
  | .text s => some s

/-- The text of names that are authored as a single one. -/
def Names.text? : Names → Option String
  | .one name => some name
  | .many _ => none

/-- The value of an effect, if it is a text. Sizes and single immunities are texts too, though no
formulas are meant. -/
def Effect.valueText? : Effect → Option String
  | .flatModifier rule => rule.value.text?
  | .adjustModifier rule => rule.value.bind Operand.text?
  | .baseSpeed rule => rule.value.text?
  | .activeEffectLike rule => rule.value.text?
  | .weaponPotency rule => rule.value.text?
  | .striking rule => rule.value.text?
  | .tempHP rule => rule.value.text?
  | .fastHealing rule => rule.value.text?
  | .resistance rule => rule.value.text?
  | .weakness rule => rule.value.text?
  | .immunity rule => rule.value.text?
  | .creatureSize rule => rule.value.map Worded.word
  | _ => none

/-- What an effect lacks to have a result. -/
def Effect.lacks : Effect → List String
  | .grantItem rule =>
    if rule.uuid.all (· == "") && (rule.item.getD []).isEmpty then ["GrantItem: needs uuid or item"]
    else []
  | .choiceSet rule => if rule.choices.isEmpty then ["ChoiceSet: no choices"] else []
  | _ => []

/-- The problems found, and the lines reported while looking for them. A fault ends the search. -/
structure Linting where
  problems : List String := []
  log : List LogLine := []
  fault : Option ArithmeticFault := none
  deriving Inhabited

/-- What is wrong with the text of a value. -/
def Kind.lintText (kind : Kind) (s : String) : Linting :=
  match Operand.resolveText 0 s with
  | .made _ => {}
  | .inert reasons =>
    { problems := [kind.name ++ ": unsupported formula " ++ Text.quoted s], log := reasons }
  | .failed fault => { fault := some fault }

/-- What is wrong with the value of a rule element. -/
def RuleElement.lintValue (e : RuleElement) : Linting :=
  match e.effect.valueText? with
  | some s => e.kind.lintText s
  | none => {}

/-- What is wrong with a rule element. -/
def RuleElement.lint (e : RuleElement) : Linting :=
  let value := e.lintValue
  match value.fault with
  | some _ => value
  | none => { value with problems := value.problems ++ e.effect.lacks }

/-- What is wrong with a payload. -/
def ParsedElement.lint : ParsedElement → Linting
  | .known element => element.lint
  | .unrecognized payload =>
    { problems := [(if payload.key = "" then "?" else payload.key) ++ ": " ++ payload.reason] }

end RuleElements
