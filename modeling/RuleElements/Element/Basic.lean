import RuleElements.Formula
import RuleElements.Predicate.Codec
import RuleElements.Schema.Reader
import RuleElements.Vocabulary

/-!
# Rule elements

A rule element is one authored rule: a kind with its own fields, a label, and a predicate that gates
it. What could not be understood is kept with the reason.

Main definitions:
* `Kind`: the nineteen kinds that the engine understands, in the order in which they are listed.
* one structure for the fields of each kind, and `Effect`, their sum.
* `RuleElement`: an effect with its label and predicate.
* `ParsedElement`: a rule element, or an unrecognized payload.
-/

namespace RuleElements

/-! ## Kinds -/

/-- A kind of rule element. -/
inductive Kind
  | flatModifier
  | adjustModifier
  | damageDice
  | baseSpeed
  | sense
  | grantItem
  | choiceSet
  | activeEffectLike
  | rollOption
  | toggleProperty
  | weaponPotency
  | striking
  | tempHP
  | fastHealing
  | resistance
  | weakness
  | immunity
  | creatureSize
  | actorTraits
  deriving DecidableEq, Repr, Inhabited

namespace Kind

instance : Worded Kind where
  all := [.flatModifier, .adjustModifier, .damageDice, .baseSpeed, .sense, .grantItem, .choiceSet,
    .activeEffectLike, .rollOption, .toggleProperty, .weaponPotency, .striking, .tempHP,
    .fastHealing, .resistance, .weakness, .immunity, .creatureSize, .actorTraits]
  word
    | .flatModifier => "FlatModifier"
    | .adjustModifier => "AdjustModifier"
    | .damageDice => "DamageDice"
    | .baseSpeed => "BaseSpeed"
    | .sense => "Sense"
    | .grantItem => "GrantItem"
    | .choiceSet => "ChoiceSet"
    | .activeEffectLike => "ActiveEffectLike"
    | .rollOption => "RollOption"
    | .toggleProperty => "ToggleProperty"
    | .weaponPotency => "WeaponPotency"
    | .striking => "Striking"
    | .tempHP => "TempHP"
    | .fastHealing => "FastHealing"
    | .resistance => "Resistance"
    | .weakness => "Weakness"
    | .immunity => "Immunity"
    | .creatureSize => "CreatureSize"
    | .actorTraits => "ActorTraits"

/-- The name of a kind. -/
def name (k : Kind) : String := Worded.word k

/-- The names of all kinds. -/
def names : List String := Worded.words Kind

/-- The kind with a name. -/
def ofName? (s : String) : Option Kind := Worded.ofWord? s

/-- Whether there is a kind with a name. -/
def isSupported (s : String) : Bool := (ofName? s).isSome

theorem ofName?_name (k : Kind) : ofName? k.name = some k := by cases k <;> decide

end Kind

/-! ## Fields of each kind -/

/-- A number to be added to what its selector names. -/
structure FlatModifierRule where
  selector : String
  value : Operand
  type : Option ModifierType
  enabled : Option Bool
  description : Option String
  deriving Repr, Inhabited

/-- A change to the modifiers that came before. -/
structure AdjustModifierRule where
  selector : String
  slug : Option String
  mode : Option AdjustMode
  value : Option Operand
  deriving Repr, Inhabited

/-- Replacements for the fields of damage dice. -/
structure DiceOverride where
  diceNumber : Option Int
  dieSize : Option String
  damageType : Option String
  deriving Repr, Inhabited

/-- Dice to be added to damage. -/
structure DamageDiceRule where
  selector : String
  diceNumber : Option Int
  dieSize : Option String
  damageType : Option String
  category : Option DamageCategory
  override : Option DiceOverride
  deriving Repr, Inhabited

/-- A speed of the character. -/
structure BaseSpeedRule where
  selector : Option String
  value : Operand
  deriving Repr, Inhabited

/-- A sense of the character. -/
structure SenseRule where
  selector : String
  range : Option Int
  acuity : Option Acuity
  deriving Repr, Inhabited

/-- An item that the character is given. -/
structure GrantItemRule where
  uuid : Option String
  item : Option (List (String × Data))
  allowDuplicate : Option Bool
  level : Option Int
  deriving Repr, Inhabited

/-- One of the options of a choice. -/
structure ChoiceOption where
  value : String
  label : String
  img : Option String
  predicate : Option Predicate
  deriving Repr, Inhabited

instance : Gated ChoiceOption := ⟨ChoiceOption.predicate⟩

/-- A choice that the player makes. -/
structure ChoiceSetRule where
  flag : Option String
  prompt : Option String
  choices : List ChoiceOption
  adjustName : Option Bool
  allowedDrops : Option (List (String × Data))
  selection : Option Int
  deriving Repr, Inhabited

/-- A change to a property of the character. -/
structure ActiveEffectRule where
  path : String
  mode : PropertyMode
  value : Operand
  phase : Option Phase
  priority : Option Int
  deriving Repr, Inhabited

/-- An option to be put in force. -/
structure RollOptionRule where
  option : String
  domain : Option String
  toggleable : Option Bool
  value : Option Bool
  alwaysActive : Option Bool
  deriving Repr, Inhabited

/-- A property that the player switches. -/
structure TogglePropertyRule where
  property : String
  value : Option Bool
  rollOption : Option String
  description : Option String
  deriving Repr, Inhabited

/-- A weapon potency or a striking rune. -/
structure RuneRule where
  value : Operand
  selector : Option String
  deriving Repr, Inhabited

/-- Temporary hit points. -/
structure TempHPRule where
  value : Operand
  events : Option (List String)
  deriving Repr, Inhabited

/-- Recovery over time. -/
structure FastHealingRule where
  value : Operand
  type : Option HealingType
  deactivatedBy : Option (List String)
  deriving Repr, Inhabited

/-- Names that may be authored as a single text. -/
inductive Names
  | one (name : String)
  | many (names : List String)
  deriving DecidableEq, Repr, Inhabited

/-- The names as a list. -/
def Names.toList : Names → List String
  | .one name => [name]
  | .many names => names

/-- The names as raw data. -/
def Names.toData : Names → Data
  | .one name => .text name
  | .many names => .texts names

/-- Names from raw data. -/
def Names.read : Data → Checked Names
  | .text s => .valid (.one s)
  | other =>
    match other.asTexts with
    | .valid names => .valid (.many names)
    | .invalid issues =>
      .invalid (⟨["str"], .notText⟩ ::
        issues.map fun issue => ⟨"list[str]" :: issue.path, issue.problem⟩)

/-- A resistance to damage. -/
structure ResistanceRule where
  type : Names
  value : Operand
  exceptions : Option (List String)
  deriving Repr, Inhabited

/-- A weakness to damage. -/
structure WeaknessRule where
  type : Names
  value : Operand
  deriving Repr, Inhabited

/-- An immunity. -/
structure ImmunityRule where
  type : ImmunityType
  value : Names
  deriving Repr, Inhabited

/-- A change of size. -/
structure CreatureSizeRule where
  value : Option Size
  resizeBy : Option Int
  maximumSize : Option Size
  minimumSize : Option Size
  deriving Repr, Inhabited

/-- A change of traits. -/
structure ActorTraitsRule where
  add : Option (List String)
  remove : Option (List String)
  deriving Repr, Inhabited

/-- The fields of a rule element that belong to its kind. -/
inductive Effect
  | flatModifier (rule : FlatModifierRule)
  | adjustModifier (rule : AdjustModifierRule)
  | damageDice (rule : DamageDiceRule)
  | baseSpeed (rule : BaseSpeedRule)
  | sense (rule : SenseRule)
  | grantItem (rule : GrantItemRule)
  | choiceSet (rule : ChoiceSetRule)
  | activeEffectLike (rule : ActiveEffectRule)
  | rollOption (rule : RollOptionRule)
  | toggleProperty (rule : TogglePropertyRule)
  | weaponPotency (rule : RuneRule)
  | striking (rule : RuneRule)
  | tempHP (rule : TempHPRule)
  | fastHealing (rule : FastHealingRule)
  | resistance (rule : ResistanceRule)
  | weakness (rule : WeaknessRule)
  | immunity (rule : ImmunityRule)
  | creatureSize (rule : CreatureSizeRule)
  | actorTraits (rule : ActorTraitsRule)
  deriving Repr, Inhabited

/-- The kind of an effect. -/
def Effect.kind : Effect → Kind
  | .flatModifier _ => .flatModifier
  | .adjustModifier _ => .adjustModifier
  | .damageDice _ => .damageDice
  | .baseSpeed _ => .baseSpeed
  | .sense _ => .sense
  | .grantItem _ => .grantItem
  | .choiceSet _ => .choiceSet
  | .activeEffectLike _ => .activeEffectLike
  | .rollOption _ => .rollOption
  | .toggleProperty _ => .toggleProperty
  | .weaponPotency _ => .weaponPotency
  | .striking _ => .striking
  | .tempHP _ => .tempHP
  | .fastHealing _ => .fastHealing
  | .resistance _ => .resistance
  | .weakness _ => .weakness
  | .immunity _ => .immunity
  | .creatureSize _ => .creatureSize
  | .actorTraits _ => .actorTraits

/-- A rule element. -/
structure RuleElement where
  label : Option String
  predicate : Option Predicate
  effect : Effect
  deriving Repr, Inhabited

/-- The kind of a rule element. -/
def RuleElement.kind (e : RuleElement) : Kind := e.effect.kind

/-- A payload that is not understood; processing skips it. -/
structure Unrecognized where
  key : String
  raw : List (String × Data)
  reason : String
  deriving Repr, Inhabited

/-- What a payload turns out to be. -/
inductive ParsedElement
  | known (element : RuleElement)
  | unrecognized (payload : Unrecognized)
  deriving Repr, Inhabited

end RuleElements
