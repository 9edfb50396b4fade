import RuleElements.Choice.Placeholder
import RuleElements.Log
import RuleElements.Processing.Label

/-!
# Processing a rule element

How a rule element, on its own, becomes an entry: its operand is resolved at the level of the
character, choices and switches are looked up in the store, and missing fields get their defaults.
Adjustments are not processed here, since they act on the entries before them.

Main definitions:
* `Processing`: the circumstances of a pass.
* `RuleElement.process`: the entry of a rule element.
-/

namespace RuleElements

/-- The circumstances of a pass: where the rule elements come from, the level of the character, and
the player's choices if they are known. -/
structure Processing where
  source : String
  level : Int := 1
  choices : Option ChoiceStore := none
  deriving Repr, Inhabited

/-- The text, unless it is empty. -/
def nonEmpty? : Option String → Option String
  | some "" => none
  | other => other

/-- The number within the bounds that is nearest to `n`. -/
def clamp (least greatest n : Int) : Int := max least (min greatest n)

/-- The key under which the player switches a gated modifier. -/
def modifierToggleKey (source selector : String) : String := source ++ ":" ++ selector

namespace Processing

/-- The switch under a key, if the choices are known. -/
def toggle? (p : Processing) (key : String) : Option Bool := p.choices.bind (·.getToggle key)

/-- A warning about a rule element. -/
def warn (text : String) : LogLine := .warning .processors text

/-- A modifier. The player may switch it if it is gated. -/
def flatModifier (p : Processing) (label : Option String) (predicate : Option Predicate)
    (rule : FlatModifierRule) : Attempt Entry :=
  (rule.value.resolve p.level).map fun value =>
    let stored :=
      if predicate.isSome then p.toggle? (modifierToggleKey p.source rule.selector) else none
    .modifier
      { label := (nonEmpty? label).getD (Label.ofModifier rule.selector value)
        source := p.source
        value
        type := rule.type.getD .untyped
        selector := rule.selector
        predicate
        enabled := stored.getD (rule.enabled.getD true)
        alwaysActive := predicate.isNone
        description := rule.description }

/-- Dice of damage, with the replacements put in. -/
def damageDice (p : Processing) (predicate : Option Predicate) (rule : DamageDiceRule) : Entry :=
  let number := ((rule.override.bind (·.diceNumber)).or rule.diceNumber).getD 1
  let die := (nonEmpty? (rule.override.bind (·.dieSize))).or (nonEmpty? rule.dieSize)
  let type := (nonEmpty? (rule.override.bind (·.damageType))).or (nonEmpty? rule.damageType)
  .damageDice
    { selector := rule.selector
      diceNumber := number
      dieSize := die.getD "d6"
      damageType := type.getD "untyped"
      category := rule.category
      override := rule.override.isSome
      source := p.source
      predicate }

/-- A speed, on land unless the rule says otherwise. -/
def baseSpeed (p : Processing) (predicate : Option Predicate) (rule : BaseSpeedRule) :
    Attempt Entry :=
  (rule.value.resolve p.level).map fun value =>
    .speed { type := (nonEmpty? rule.selector).getD "land", value, source := p.source, predicate }

/-- A sense. -/
def sense (p : Processing) (label : Option String) (predicate : Option Predicate)
    (rule : SenseRule) : Entry :=
  let acuity := rule.acuity.getD (Label.defaultAcuity rule.selector)
  .sense
    { type := rule.selector
      range := rule.range
      acuity
      source := p.source
      label := (nonEmpty? label).getD (Label.ofSense rule.selector rule.range acuity)
      predicate }

/-- A granted item, once the character has the level for it. -/
def grantItem (p : Processing) (predicate : Option Predicate) (rule : GrantItemRule) :
    Attempt Entry :=
  if (nonEmpty? rule.uuid).isNone && (rule.item.getD []).isEmpty then
    .inert [warn ("GrantItem from " ++ p.source ++ " has neither uuid nor item")]
  else if rule.level.any (p.level < ·) then .inert []
  else
    .made <| .grantedItem
      { uuid := rule.uuid
        item := rule.item
        source := p.source
        allowDuplicate := rule.allowDuplicate.getD false
        predicate }

/-- A choice, with the selection that the store holds for it. -/
def choiceSet (p : Processing) (predicate : Option Predicate) (rule : ChoiceSetRule) :
    Attempt Entry :=
  if rule.choices.isEmpty then
    .inert [warn ("ChoiceSet from " ++ p.source ++ " has no choices")]
  else
    let flag := (nonEmpty? rule.flag).getD (Label.choiceFlag p.source)
    .made <| .choicePrompt
      { flag
        prompt := (nonEmpty? rule.prompt).getD "Make a selection"
        choices := rule.choices
        source := p.source
        selectionCount := rule.selection.getD 1
        adjustName := rule.adjustName.getD false
        selection := p.choices.bind (·.getSelection flag)
        predicate }

/-- The operand with selections put into its placeholders. -/
def fillOperand (store : Option ChoiceStore) : Operand → Option Operand
  | .number n => some (.number n)
  | .text s => (Placeholder.resolve store s).map .text

/-- A property change; its path and its value may refer to selections. -/
def activeEffect (p : Processing) (predicate : Option Predicate) (rule : ActiveEffectRule) :
    Attempt Entry :=
  match Placeholder.resolve p.choices rule.path, fillOperand p.choices rule.value with
  | some path, some value =>
    (value.resolve p.level).map fun value =>
      .propertyChange
        { path
          mode := rule.mode
          value
          phase := rule.phase.getD .applyEffects
          priority := rule.priority.getD 100
          source := p.source
          predicate }
  | _, _ =>
    .inert [warn ("ActiveEffectLike from " ++ p.source ++ " references an unresolved selection")]

/-- A roll option. The player may switch it if it is toggleable. -/
def rollOption (p : Processing) (label : Option String) (predicate : Option Predicate)
    (rule : RollOptionRule) : Entry :=
  let toggleable := rule.toggleable.getD false
  let stored := if toggleable then p.toggle? rule.option else none
  .rollOption
    { option := rule.option
      domain := (nonEmpty? rule.domain).getD "all"
      toggleable
      enabled := ((stored.or rule.value).or rule.alwaysActive).getD true
      label
      source := p.source
      predicate }

/-- A switched property, off until the player or the rule says otherwise. -/
def toggleProperty (p : Processing) (label : Option String) (predicate : Option Predicate)
    (rule : TogglePropertyRule) : Entry :=
  .toggleProperty
    { property := rule.property
      label := (nonEmpty? label).getD rule.property
      enabled := ((p.toggle? rule.property).or rule.value).getD false
      source := p.source
      predicate
      rollOption := rule.rollOption
      description := rule.description }

/-- The rank of a rune, from one to three. -/
def runeRank (p : Processing) (value : Operand) : Attempt Int :=
  (value.resolve p.level).andThen fun n => (Attempt.ofArithmetic n.truncate).map (clamp 1 3)

/-- A potency rune with its attack modifier and its damage modifier. -/
def weaponPotency (p : Processing) (predicate : Option Predicate) (rule : RuneRule) :
    Attempt Entry :=
  (p.runeRank rule.value).map fun potency =>
    let selector := (nonEmpty? rule.selector).getD "strike-attack-roll"
    let modifier (selector : String) : Modifier :=
      { label := "+" ++ toString potency ++ " Weapon Potency"
        source := p.source
        value := .integer potency
        type := .item
        selector
        predicate
        alwaysActive := predicate.isNone }
    .weaponPotency
      { potency
        attackModifier := modifier selector
        damageModifier := modifier (Text.replaceFirst selector "attack-roll" "damage")
        source := p.source
        predicate }

/-- A striking rune. -/
def striking (p : Processing) (predicate : Option Predicate) (rule : RuneRule) : Attempt Entry :=
  (p.runeRank rule.value).map fun extraDice =>
    .striking
      { extraDice
        selector := (nonEmpty? rule.selector).getD "strike-damage"
        source := p.source
        predicate }

/-- Temporary hit points; their label goes for their source. -/
def tempHP (p : Processing) (label : Option String) (predicate : Option Predicate)
    (rule : TempHPRule) : Attempt Entry :=
  (rule.value.resolve p.level).map fun value =>
    .tempHP
      { value
        source := (nonEmpty? label).getD p.source
        events := match rule.events.getD [] with
          | [] => ["effect-start"]
          | events => events
        predicate }

/-- Recovery over time; its label goes for its source. -/
def fastHealing (p : Processing) (label : Option String) (predicate : Option Predicate)
    (rule : FastHealingRule) : Attempt Entry :=
  (rule.value.resolve p.level).map fun value =>
    .fastHealing
      { value
        type := rule.type.getD .fastHealing
        source := (nonEmpty? label).getD p.source
        deactivatedBy := rule.deactivatedBy.getD []
        predicate }

/-- A resistance. -/
def resistance (p : Processing) (predicate : Option Predicate) (rule : ResistanceRule) :
    Attempt Entry :=
  (rule.value.resolve p.level).map fun value =>
    .resistance
      { types := rule.type.toList
        value
        exceptions := rule.exceptions.getD []
        source := p.source
        predicate }

/-- A weakness. -/
def weakness (p : Processing) (predicate : Option Predicate) (rule : WeaknessRule) :
    Attempt Entry :=
  (rule.value.resolve p.level).map fun value =>
    .weakness { types := rule.type.toList, value, source := p.source, predicate }

/-- An immunity. -/
def immunity (p : Processing) (predicate : Option Predicate) (rule : ImmunityRule) : Entry :=
  .immunity { type := rule.type, values := rule.value.toList, source := p.source, predicate }

/-- A change of size. -/
def sizeChange (p : Processing) (predicate : Option Predicate) (rule : CreatureSizeRule) : Entry :=
  .sizeChange
    { size := rule.value
      resizeBy := rule.resizeBy.getD 0
      maximumSize := rule.maximumSize
      minimumSize := rule.minimumSize
      source := p.source
      predicate }

/-- A change of traits. -/
def traitChange (p : Processing) (predicate : Option Predicate) (rule : ActorTraitsRule) : Entry :=
  .traitChange
    { add := rule.add.getD [], remove := rule.remove.getD [], source := p.source, predicate }

end Processing

/-- The entry of a rule element; nothing for an adjustment. -/
def RuleElement.process (p : Processing) (e : RuleElement) : Attempt Entry :=
  match e.effect with
  | .flatModifier rule => p.flatModifier e.label e.predicate rule
  | .adjustModifier _ => .inert []
  | .damageDice rule => .made (p.damageDice e.predicate rule)
  | .baseSpeed rule => p.baseSpeed e.predicate rule
  | .sense rule => .made (p.sense e.label e.predicate rule)
  | .grantItem rule => p.grantItem e.predicate rule
  | .choiceSet rule => p.choiceSet e.predicate rule
  | .activeEffectLike rule => p.activeEffect e.predicate rule
  | .rollOption rule => .made (p.rollOption e.label e.predicate rule)
  | .toggleProperty rule => .made (p.toggleProperty e.label e.predicate rule)
  | .weaponPotency rule => p.weaponPotency e.predicate rule
  | .striking rule => p.striking e.predicate rule
  | .tempHP rule => p.tempHP e.label e.predicate rule
  | .fastHealing rule => p.fastHealing e.label e.predicate rule
  | .resistance rule => p.resistance e.predicate rule
  | .weakness rule => p.weakness e.predicate rule
  | .immunity rule => .made (p.immunity e.predicate rule)
  | .creatureSize rule => .made (p.sizeChange e.predicate rule)
  | .actorTraits rule => .made (p.traitChange e.predicate rule)

end RuleElements
