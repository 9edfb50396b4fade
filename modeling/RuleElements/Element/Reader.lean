import RuleElements.Element.Basic
import RuleElements.Text.Class

/-!
# Reading rule elements

A payload is read by the name of its kind. Reading never fails: a payload without a kind, of an
unknown kind, or with fields that do not fit comes back unrecognized, with the reason.

Main definitions:
* `Effect.read`: the fields of a kind.
* `ParsedElement.ofData`: any payload.
-/

namespace RuleElements

/-- A die is written as a `d` followed by digits. -/
def isDie (s : String) : Bool :=
  match s.toList with
  | 'd' :: digits => !digits.isEmpty && digits.all Text.isDigit
  | _ => false

namespace DamageDiceRule

/-- The rules about the numbers of the dice that are broken. -/
def faults (rule : DamageDiceRule) : List String :=
  let dice := [rule.dieSize, rule.override.bind (·.dieSize)].filterMap id
  let badDice := dice.filter (!isDie ·)
  badDice.map (fun die => "dieSize must look like 'd6' (got " ++ Text.quoted die ++ ")") ++
    if rule.diceNumber.any (· < 0) then ["diceNumber must be >= 0"] else []

end DamageDiceRule

namespace CreatureSizeRule

/-- Whether the bounds leave no size between them. -/
def boundsCross (rule : CreatureSizeRule) : Bool :=
  match rule.minimumSize, rule.maximumSize with
  | some least, some greatest => greatest.rank < least.rank
  | _, _ => false

end CreatureSizeRule

/-- Replacements for the fields of damage dice, from an object. -/
def DiceOverride.readFields (fields : List (String × Data)) : Checked DiceOverride :=
  DiceOverride.mk
    <$> Fields.optional fields "diceNumber" Data.asInteger
    <*> Fields.optional fields "dieSize" Data.asText
    <*> Fields.optional fields "damageType" Data.asText

/-- An option of a choice, from an object. -/
def ChoiceOption.readFields (fields : List (String × Data)) : Checked ChoiceOption :=
  ChoiceOption.mk
    <$> Fields.required fields "value" Data.asText
    <*> Fields.required fields "label" Data.asText
    <*> Fields.optional fields "img" Data.asText
    <*> Fields.optional fields "predicate" Predicate.read

/-- An option of a choice, from raw data. -/
def ChoiceOption.read : Data → Checked ChoiceOption :=
  Data.asModel "ChoiceOption" ChoiceOption.readFields

namespace Effect

/-- A rule that must not be broken. -/
def require {α : Type} (faults : α → List String) (a : α) : Checked α :=
  match faults a with
  | [] => .valid a
  | reasons => .fail (.broken ("; ".intercalate reasons))

/-- The fields of a kind, from the fields of an object. -/
def read (fields : List (String × Data)) : Kind → Checked Effect
  | .flatModifier =>
    (FlatModifierRule.mk
      <$> Fields.required fields "selector" Data.asText
      <*> Fields.required fields "value" Operand.read
      <*> Fields.optional fields "type" Data.asWord
      <*> Fields.optional fields "enabled" Data.asBoolean
      <*> Fields.optional fields "description" Data.asText).map .flatModifier
  | .adjustModifier =>
    (AdjustModifierRule.mk
      <$> Fields.required fields "selector" Data.asText
      <*> Fields.optional fields "slug" Data.asText
      <*> Fields.optional fields "mode" Data.asWord
      <*> Fields.optional fields "value" Operand.read).map .adjustModifier
  | .damageDice =>
    ((DamageDiceRule.mk
      <$> Fields.required fields "selector" Data.asText
      <*> Fields.optional fields "diceNumber" Data.asInteger
      <*> Fields.optional fields "dieSize" Data.asText
      <*> Fields.optional fields "damageType" Data.asText
      <*> Fields.optional fields "category" Data.asWord
      <*> Fields.optional fields "override"
        (Data.asModel "DamageDiceOverride" DiceOverride.readFields)).map .damageDice)
  | .baseSpeed =>
    (BaseSpeedRule.mk
      <$> Fields.optional fields "selector" Data.asText
      <*> Fields.required fields "value" Operand.read).map .baseSpeed
  | .sense =>
    (SenseRule.mk
      <$> Fields.required fields "selector" Data.asText
      <*> Fields.optional fields "range" Data.asInteger
      <*> Fields.optional fields "acuity" Data.asWord).map .sense
  | .grantItem =>
    (GrantItemRule.mk
      <$> Fields.optional fields "uuid" Data.asText
      <*> Fields.optional fields "item" Data.asObject
      <*> Fields.optional fields "allowDuplicate" Data.asBoolean
      <*> Fields.optional fields "level" Data.asInteger).map .grantItem
  | .choiceSet =>
    (ChoiceSetRule.mk
      <$> Fields.optional fields "flag" Data.asText
      <*> Fields.optional fields "prompt" Data.asText
      <*> Fields.defaulted fields "choices" [] (Data.asList ChoiceOption.read)
      <*> Fields.optional fields "adjustName" Data.asBoolean
      <*> Fields.optional fields "allowedDrops" Data.asObject
      <*> Fields.optional fields "selection" Data.asInteger).map .choiceSet
  | .activeEffectLike =>
    (ActiveEffectRule.mk
      <$> Fields.required fields "path" Data.asText
      <*> Fields.required fields "mode" Data.asWord
      <*> Fields.required fields "value" Operand.read
      <*> Fields.optional fields "phase" Data.asWord
      <*> Fields.optional fields "priority" Data.asInteger).map .activeEffectLike
  | .rollOption =>
    (RollOptionRule.mk
      <$> Fields.required fields "option" Data.asText
      <*> Fields.optional fields "domain" Data.asText
      <*> Fields.optional fields "toggleable" Data.asBoolean
      <*> Fields.optional fields "value" Data.asBoolean
      <*> Fields.optional fields "alwaysActive" Data.asBoolean).map .rollOption
  | .toggleProperty =>
    (TogglePropertyRule.mk
      <$> Fields.required fields "property" Data.asText
      <*> Fields.optional fields "value" Data.asBoolean
      <*> Fields.optional fields "rollOption" Data.asText
      <*> Fields.optional fields "description" Data.asText).map .toggleProperty
  | .weaponPotency => (readRune fields).map .weaponPotency
  | .striking => (readRune fields).map .striking
  | .tempHP =>
    (TempHPRule.mk
      <$> Fields.required fields "value" Operand.read
      <*> Fields.optional fields "events" Data.asTexts).map .tempHP
  | .fastHealing =>
    (FastHealingRule.mk
      <$> Fields.required fields "value" Operand.read
      <*> Fields.optional fields "type" Data.asWord
      <*> Fields.optional fields "deactivatedBy" Data.asTexts).map .fastHealing
  | .resistance =>
    (ResistanceRule.mk
      <$> Fields.required fields "type" Names.read
      <*> Fields.required fields "value" Operand.read
      <*> Fields.optional fields "exceptions" Data.asTexts).map .resistance
  | .weakness =>
    (WeaknessRule.mk
      <$> Fields.required fields "type" Names.read
      <*> Fields.required fields "value" Operand.read).map .weakness
  | .immunity =>
    (ImmunityRule.mk
      <$> Fields.required fields "type" Data.asWord
      <*> Fields.required fields "value" Names.read).map .immunity
  | .creatureSize =>
    (CreatureSizeRule.mk
      <$> Fields.optional fields "value" Data.asWord
      <*> Fields.optional fields "resizeBy" Data.asInteger
      <*> Fields.optional fields "maximumSize" Data.asWord
      <*> Fields.optional fields "minimumSize" Data.asWord).map .creatureSize
  | .actorTraits =>
    (ActorTraitsRule.mk
      <$> Fields.optional fields "add" Data.asTexts
      <*> Fields.optional fields "remove" Data.asTexts).map .actorTraits
where
  /-- The fields of a rune. -/
  readRune (fields : List (String × Data)) : Checked RuneRule :=
    RuneRule.mk
      <$> Fields.required fields "value" Operand.read
      <*> Fields.optional fields "selector" Data.asText

/-- The rules between the fields of an effect that are broken. -/
def faults : Effect → List String
  | .damageDice rule => rule.faults
  | .creatureSize rule =>
    if rule.boundsCross then ["minimumSize cannot be larger than maximumSize"] else []
  | _ => []

end Effect

namespace RuleElement

/-- A rule element of a kind, from the fields of an object. -/
def read (kind : Kind) (fields : List (String × Data)) : Checked RuleElement :=
  (RuleElement.mk
    <$> Fields.optional fields "label" Data.asText
    <*> Fields.optional fields "predicate" Predicate.read
    <*> Effect.read fields kind).andThen (Effect.require fun e => e.effect.faults)

end RuleElement

namespace ParsedElement

/-- What the fields of an object turn out to be. -/
def ofFields (fields : List (String × Data)) : ParsedElement :=
  match Fields.get? fields "key" with
  | some (.text key) =>
    if key = "" then .unrecognized ⟨"", fields, "missing kind tag"⟩
    else
      match Kind.ofName? key with
      | none => .unrecognized ⟨key, fields, "unsupported kind"⟩
      | some kind =>
        match (RuleElement.read kind fields).under key with
        | .valid element => .known element
        | .invalid issues => .unrecognized ⟨key, fields, "malformed: " ++ Issue.messages issues⟩
  | _ => .unrecognized ⟨"", fields, "missing kind tag"⟩

/-- What a payload turns out to be. -/
def ofData : Data → ParsedElement
  | .object fields => ofFields fields
  | other => .unrecognized ⟨"", [("value", other)], "rule element is not a mapping"⟩

end ParsedElement

end RuleElements
