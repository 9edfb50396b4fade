import RuleElements.Choice.Store
import RuleElements.Stacking.Selection
import RuleElements.Text.Casing
import RuleElements.Vocabulary

/-!
# The state of a character

What a character brings to the rules: level, traits, size, effects, conditions, speeds, the player's
choices, and the sources that apply.

Main definitions:
* `CharacterState.context`: the context that predicates are checked against.
* `CharacterState.conditionModifiers`: the penalties that conditions bring of themselves.
-/

namespace RuleElements

/-- The state of a character. -/
structure CharacterState where
  name : String := "Unnamed"
  level : Int := 1
  abilities : List (String × Int) := []
  traits : List String := []
  /-- the size, if one is stated -/
  statedSize : Option Size := none
  effects : List String := []
  rollOptions : List String := []
  conditions : List (String × Int) := []
  baseSpeeds : List (String × Int) := []
  choices : ChoiceStore := {}
  sourceIds : List String := []
  deriving Repr, Inhabited

namespace CharacterState

/-- The size, medium if none is stated. -/
def size (s : CharacterState) : Size := s.statedSize.getD .medium

/-- A state from raw data. -/
def read : Data → Checked CharacterState :=
  Data.asModel "CharacterState" fun fields =>
    CharacterState.mk
      <$> Fields.defaulted fields "name" "Unnamed" Data.asText
      <*> Fields.defaulted fields "level" 1 Data.asInteger
      <*> Fields.defaulted fields "abilities" [] (Data.asMap Data.asInteger)
      <*> Fields.defaulted fields "traits" [] Data.asTexts
      <*> Fields.defaulted fields "size" none (fun size => size.asWord.map some)
      <*> Fields.defaulted fields "effects" [] Data.asTexts
      <*> Fields.defaulted fields "roll_options" [] Data.asTexts
      <*> Fields.defaulted fields "conditions" [] (Data.asMap Data.asInteger)
      <*> Fields.defaulted fields "base_speeds" [] (Data.asMap Data.asInteger)
      <*> Fields.defaulted fields "choices" {} ChoiceStore.read
      <*> Fields.defaulted fields "source_ids" [] Data.asTexts

/-- A state as raw data. -/
def toData (s : CharacterState) : Data :=
  .object [("name", .text s.name), ("level", .int s.level),
    ("abilities", .object (Fields.mapValues Data.int s.abilities)), ("traits", .texts s.traits),
    ("size", .ofWord s.size), ("effects", .texts s.effects),
    ("roll_options", .texts s.rollOptions),
    ("conditions", .object (Fields.mapValues Data.int s.conditions)),
    ("base_speeds", .object (Fields.mapValues Data.int s.baseSpeeds)),
    ("choices", s.choices.toData), ("source_ids", .texts s.sourceIds)]

/-- The selectors that the conditions with a penalty of their own are aimed at. -/
def conditionSelector? : String → Option String
  | "frightened" => some "all-checks-dcs"
  | "sickened" => some "all-checks"
  | "clumsy" => some "dexterity-based"
  | "enfeebled" => some "strength-based"
  | "stupefied" => some "intelligence-based"
  | _ => none

/-- The penalty of a condition with a value above zero, if it has one of its own. -/
def conditionModifier? (name : String) (value : Int) : Option Modifier :=
  if value ≤ 0 then none
  else
    (conditionSelector? (Text.lower name)).map fun selector =>
      { label := Text.title name
        source := Text.title name ++ " Condition"
        value := .integer (-value)
        type := .status
        selector }

/-- The penalties that conditions bring of themselves. -/
def conditionModifiers (conditions : List (String × Int)) : List Modifier :=
  conditions.filterMap fun (name, value) => conditionModifier? name value

/-- The options of a state: its roll options, further ones, and its conditions, each once. -/
def options (s : CharacterState) (further : List String) : List String :=
  (s.rollOptions ++ further ++
    (s.conditions.filter (0 < ·.2)).map (Text.lower ·.1)).eraseDups

/-- The context of a state with the given traits and further options. -/
def context (s : CharacterState) (traits further : List String) : Context where
  options := s.options further
  level := some s.level
  traits := some traits
  effects := some s.effects

end CharacterState

end RuleElements
