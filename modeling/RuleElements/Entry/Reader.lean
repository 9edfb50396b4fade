import RuleElements.Entry.Basic

/-!
# Reading entries

Entries that come from outside are checked like rule elements: their fields are read in order, and
all issues are collected.
-/

namespace RuleElements

/-- The predicate of an entry, from the fields of an object. -/
def readPredicate (fields : List (String × Data)) : Checked (Option Predicate) :=
  Fields.optional fields "predicate" Predicate.read

/-- A modifier from raw data. -/
def Modifier.read : Data → Checked Modifier :=
  Data.asModel "Modifier" fun fields =>
    Modifier.mk
      <$> Fields.required fields "label" Data.asText
      <*> Fields.required fields "source" Data.asText
      <*> Fields.required fields "value" Data.asNumber
      <*> Fields.defaulted fields "type" .untyped Data.asWord
      <*> Fields.required fields "selector" Data.asText
      <*> readPredicate fields
      <*> Fields.defaulted fields "enabled" true Data.asBoolean
      <*> Fields.defaulted fields "always_active" true Data.asBoolean
      <*> Fields.optional fields "description" Data.asText

/-- Damage dice from raw data. -/
def DamageDice.read : Data → Checked DamageDice :=
  Data.asModel "DamageDice" fun fields =>
    DamageDice.mk
      <$> Fields.required fields "selector" Data.asText
      <*> Fields.required fields "dice_number" Data.asInteger
      <*> Fields.required fields "die_size" Data.asText
      <*> Fields.required fields "damage_type" Data.asText
      <*> Fields.optional fields "category" Data.asWord
      <*> Fields.defaulted fields "override" false Data.asBoolean
      <*> Fields.required fields "source" Data.asText
      <*> readPredicate fields
      <*> Fields.defaulted fields "enabled" true Data.asBoolean

/-- A speed from raw data. -/
def Speed.read : Data → Checked Speed :=
  Data.asModel "Speed" fun fields =>
    Speed.mk
      <$> Fields.required fields "type" Data.asText
      <*> Fields.required fields "value" Data.asNumber
      <*> Fields.required fields "source" Data.asText
      <*> readPredicate fields

/-- A sense from raw data. -/
def Sense.read : Data → Checked Sense :=
  Data.asModel "Sense" fun fields =>
    Sense.mk
      <$> Fields.required fields "type" Data.asText
      <*> Fields.optional fields "range" Data.asInteger
      <*> Fields.required fields "acuity" Data.asWord
      <*> Fields.required fields "source" Data.asText
      <*> Fields.required fields "label" Data.asText
      <*> readPredicate fields
      <*> Fields.defaulted fields "enabled" true Data.asBoolean

/-- A granted item from raw data. -/
def GrantedItem.read : Data → Checked GrantedItem :=
  Data.asModel "GrantedItem" fun fields =>
    GrantedItem.mk
      <$> Fields.optional fields "uuid" Data.asText
      <*> Fields.optional fields "item" Data.asObject
      <*> Fields.required fields "source" Data.asText
      <*> Fields.defaulted fields "allow_duplicate" false Data.asBoolean
      <*> readPredicate fields

/-- A property change from raw data. -/
def PropertyChange.read : Data → Checked PropertyChange :=
  Data.asModel "PropertyModification" fun fields =>
    PropertyChange.mk
      <$> Fields.required fields "path" Data.asText
      <*> Fields.required fields "mode" Data.asWord
      <*> Fields.required fields "value" Data.asNumber
      <*> Fields.defaulted fields "phase" .applyEffects Data.asWord
      <*> Fields.defaulted fields "priority" 100 Data.asInteger
      <*> Fields.required fields "source" Data.asText
      <*> readPredicate fields

/-- A striking rune from raw data. -/
def Striking.read : Data → Checked Striking :=
  Data.asModel "StrikingResult" fun fields =>
    Striking.mk
      <$> Fields.required fields "extra_dice" Data.asInteger
      <*> Fields.required fields "selector" Data.asText
      <*> Fields.required fields "source" Data.asText
      <*> readPredicate fields

/-- Temporary hit points from raw data. -/
def TempHP.read : Data → Checked TempHP :=
  Data.asModel "TempHPResult" fun fields =>
    TempHP.mk
      <$> Fields.required fields "value" Data.asNumber
      <*> Fields.required fields "source" Data.asText
      <*> Fields.defaulted fields "events" ["effect-start"] Data.asTexts
      <*> readPredicate fields

/-- Recovery over time from raw data. -/
def FastHealing.read : Data → Checked FastHealing :=
  Data.asModel "FastHealingResult" fun fields =>
    FastHealing.mk
      <$> Fields.required fields "value" Data.asNumber
      <*> Fields.defaulted fields "type" .fastHealing Data.asWord
      <*> Fields.required fields "source" Data.asText
      <*> Fields.defaulted fields "deactivated_by" [] Data.asTexts
      <*> readPredicate fields
      <*> Fields.defaulted fields "active" true Data.asBoolean

/-- A resistance from raw data. -/
def Resistance.read : Data → Checked Resistance :=
  Data.asModel "ResistanceResult" fun fields =>
    Resistance.mk
      <$> Fields.required fields "types" Data.asTexts
      <*> Fields.required fields "value" Data.asNumber
      <*> Fields.defaulted fields "exceptions" [] Data.asTexts
      <*> Fields.required fields "source" Data.asText
      <*> readPredicate fields

/-- A weakness from raw data. -/
def Weakness.read : Data → Checked Weakness :=
  Data.asModel "WeaknessResult" fun fields =>
    Weakness.mk
      <$> Fields.required fields "types" Data.asTexts
      <*> Fields.required fields "value" Data.asNumber
      <*> Fields.required fields "source" Data.asText
      <*> readPredicate fields

/-- An immunity from raw data. -/
def Immunity.read : Data → Checked Immunity :=
  Data.asModel "ImmunityResult" fun fields =>
    Immunity.mk
      <$> Fields.required fields "type" Data.asWord
      <*> Fields.required fields "values" Data.asTexts
      <*> Fields.required fields "source" Data.asText
      <*> readPredicate fields

/-- A change of size from raw data. -/
def SizeChange.read : Data → Checked SizeChange :=
  Data.asModel "CreatureSizeResult" fun fields =>
    SizeChange.mk
      <$> Fields.optional fields "size" Data.asWord
      <*> Fields.defaulted fields "resize_by" 0 Data.asInteger
      <*> Fields.optional fields "maximum_size" Data.asWord
      <*> Fields.optional fields "minimum_size" Data.asWord
      <*> Fields.required fields "source" Data.asText
      <*> readPredicate fields

/-- A change of traits from raw data. -/
def TraitChange.read : Data → Checked TraitChange :=
  Data.asModel "ActorTraitsResult" fun fields =>
    TraitChange.mk
      <$> Fields.defaulted fields "add" [] Data.asTexts
      <*> Fields.defaulted fields "remove" [] Data.asTexts
      <*> Fields.required fields "source" Data.asText
      <*> readPredicate fields

end RuleElements
