import RuleElements.Element.Basic

/-!
# Writing rule elements

A rule element is written as an object with all fields of its kind, missing ones as null.

Main definitions:
* `RuleElement.toData`, `Unrecognized.toData`, `ParsedElement.toData`.
-/

namespace RuleElements

/-- A number as raw data. -/
def Number.toData (n : Number) : Data := .number n

/-- Replacements for the fields of damage dice as raw data. -/
def DiceOverride.toData (o : DiceOverride) : Data :=
  .object [("diceNumber", .ofOption .int o.diceNumber), ("dieSize", .ofOption .text o.dieSize),
    ("damageType", .ofOption .text o.damageType)]

/-- An option of a choice as raw data. -/
def ChoiceOption.toData (c : ChoiceOption) : Data :=
  .object [("value", .text c.value), ("label", .text c.label), ("img", .ofOption .text c.img),
    ("predicate", .ofOption Predicate.toData c.predicate)]

/-- The fields of a rune as raw data. -/
def RuneRule.fields (rule : RuneRule) : List (String × Data) :=
  [("value", rule.value.toData), ("selector", .ofOption .text rule.selector)]

/-- The fields of an effect as raw data. -/
def Effect.fields : Effect → List (String × Data)
  | .flatModifier rule =>
    [("selector", .text rule.selector), ("value", rule.value.toData),
      ("type", .ofOption .ofWord rule.type), ("enabled", .ofOption .boolean rule.enabled),
      ("description", .ofOption .text rule.description)]
  | .adjustModifier rule =>
    [("selector", .text rule.selector), ("slug", .ofOption .text rule.slug),
      ("mode", .ofOption .ofWord rule.mode), ("value", .ofOption Operand.toData rule.value)]
  | .damageDice rule =>
    [("selector", .text rule.selector), ("diceNumber", .ofOption .int rule.diceNumber),
      ("dieSize", .ofOption .text rule.dieSize), ("damageType", .ofOption .text rule.damageType),
      ("category", .ofOption .ofWord rule.category),
      ("override", .ofOption DiceOverride.toData rule.override)]
  | .baseSpeed rule =>
    [("selector", .ofOption .text rule.selector), ("value", rule.value.toData)]
  | .sense rule =>
    [("selector", .text rule.selector), ("range", .ofOption .int rule.range),
      ("acuity", .ofOption .ofWord rule.acuity)]
  | .grantItem rule =>
    [("uuid", .ofOption .text rule.uuid), ("item", .ofOption .object rule.item),
      ("allowDuplicate", .ofOption .boolean rule.allowDuplicate),
      ("level", .ofOption .int rule.level)]
  | .choiceSet rule =>
    [("flag", .ofOption .text rule.flag), ("prompt", .ofOption .text rule.prompt),
      ("choices", .list (rule.choices.map ChoiceOption.toData)),
      ("adjustName", .ofOption .boolean rule.adjustName),
      ("allowedDrops", .ofOption .object rule.allowedDrops),
      ("selection", .ofOption .int rule.selection)]
  | .activeEffectLike rule =>
    [("path", .text rule.path), ("mode", .ofWord rule.mode), ("value", rule.value.toData),
      ("phase", .ofOption .ofWord rule.phase), ("priority", .ofOption .int rule.priority)]
  | .rollOption rule =>
    [("option", .text rule.option), ("domain", .ofOption .text rule.domain),
      ("toggleable", .ofOption .boolean rule.toggleable),
      ("value", .ofOption .boolean rule.value),
      ("alwaysActive", .ofOption .boolean rule.alwaysActive)]
  | .toggleProperty rule =>
    [("property", .text rule.property), ("value", .ofOption .boolean rule.value),
      ("rollOption", .ofOption .text rule.rollOption),
      ("description", .ofOption .text rule.description)]
  | .weaponPotency rule => rule.fields
  | .striking rule => rule.fields
  | .tempHP rule => [("value", rule.value.toData), ("events", .ofOption .texts rule.events)]
  | .fastHealing rule =>
    [("value", rule.value.toData), ("type", .ofOption .ofWord rule.type),
      ("deactivatedBy", .ofOption .texts rule.deactivatedBy)]
  | .resistance rule =>
    [("type", rule.type.toData), ("value", rule.value.toData),
      ("exceptions", .ofOption .texts rule.exceptions)]
  | .weakness rule => [("type", rule.type.toData), ("value", rule.value.toData)]
  | .immunity rule => [("type", .ofWord rule.type), ("value", rule.value.toData)]
  | .creatureSize rule =>
    [("value", .ofOption .ofWord rule.value), ("resizeBy", .ofOption .int rule.resizeBy),
      ("maximumSize", .ofOption .ofWord rule.maximumSize),
      ("minimumSize", .ofOption .ofWord rule.minimumSize)]
  | .actorTraits rule =>
    [("add", .ofOption .texts rule.add), ("remove", .ofOption .texts rule.remove)]

/-- The fields of a rule element as raw data. -/
def RuleElement.fields (e : RuleElement) : List (String × Data) :=
  [("label", .ofOption .text e.label), ("predicate", .ofOption Predicate.toData e.predicate),
    ("key", .text e.kind.name)] ++ e.effect.fields

/-- A rule element as raw data. -/
def RuleElement.toData (e : RuleElement) : Data := .object e.fields

/-- A payload that is not understood as raw data. -/
def Unrecognized.toData (u : Unrecognized) : Data :=
  .object [("key", .text u.key), ("raw", .object u.raw), ("reason", .text u.reason)]

/-- What a payload turned out to be as raw data. -/
def ParsedElement.toData : ParsedElement → Data
  | .known element => element.toData
  | .unrecognized payload => payload.toData

end RuleElements
