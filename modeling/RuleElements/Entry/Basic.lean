import RuleElements.Element.Basic

/-!
# Entries

What processed rule elements come to: entries with resolved numbers, each with the source it comes
from and the predicate that gates it.

Main definitions:
* one structure for each of the eighteen sorts of entries, and `Entry`, their sum.
-/

namespace RuleElements

/-- A number that is added to what the selector names. -/
structure Modifier where
  label : String
  source : String
  value : Number
  type : ModifierType := .untyped
  selector : String
  predicate : Option Predicate := none
  enabled : Bool := true
  alwaysActive : Bool := true
  description : Option String := none
  deriving Repr, Inhabited

/-- A modifier that adds. -/
def Modifier.isBonus (m : Modifier) : Bool := m.value.isPositive

/-- A modifier that takes away. -/
def Modifier.isPenalty (m : Modifier) : Bool := m.value.isNegative

/-- Dice that are added to damage. -/
structure DamageDice where
  selector : String
  diceNumber : Int
  dieSize : String
  damageType : String
  category : Option DamageCategory := none
  override : Bool := false
  source : String
  predicate : Option Predicate := none
  enabled : Bool := true
  deriving Repr, Inhabited

/-- A speed by one way of moving. -/
structure Speed where
  type : String
  value : Number
  source : String
  predicate : Option Predicate := none
  deriving Repr, Inhabited

/-- A sense. -/
structure Sense where
  type : String
  range : Option Int := none
  acuity : Acuity
  source : String
  label : String
  predicate : Option Predicate := none
  enabled : Bool := true
  deriving Repr, Inhabited

/-- An item that is given. -/
structure GrantedItem where
  uuid : Option String := none
  item : Option (List (String × Data)) := none
  source : String
  allowDuplicate : Bool := false
  predicate : Option Predicate := none
  deriving Repr, Inhabited

/-- What a player chose: one value, or several. -/
abbrev Selection := Names

/-- A choice to be made, with what has been chosen so far. -/
structure ChoicePrompt where
  flag : String
  prompt : String
  choices : List ChoiceOption
  source : String
  selectionCount : Int := 1
  adjustName : Bool := false
  selection : Option Selection := none
  predicate : Option Predicate := none
  deriving Repr, Inhabited

/-- A change to a property of the character. -/
structure PropertyChange where
  path : String
  mode : PropertyMode
  value : Number
  phase : Phase := .applyEffects
  priority : Int := 100
  source : String
  predicate : Option Predicate := none
  deriving Repr, Inhabited

/-- An option that is put in force. -/
structure RollOption where
  option : String
  domain : String := "all"
  toggleable : Bool := false
  enabled : Bool := true
  label : Option String := none
  source : String
  predicate : Option Predicate := none
  deriving Repr, Inhabited

/-- A property that the player switches. -/
structure ToggleProperty where
  property : String
  label : String
  enabled : Bool := false
  source : String
  predicate : Option Predicate := none
  rollOption : Option String := none
  description : Option String := none
  deriving Repr, Inhabited

/-- A potency rune: the same bonus to attacks and to damage. -/
structure WeaponPotency where
  potency : Int
  attackModifier : Modifier
  damageModifier : Modifier
  source : String
  predicate : Option Predicate := none
  deriving Repr, Inhabited

/-- A striking rune: further dice of damage. -/
structure Striking where
  extraDice : Int
  selector : String
  source : String
  predicate : Option Predicate := none
  deriving Repr, Inhabited

/-- Temporary hit points. -/
structure TempHP where
  value : Number
  source : String
  events : List String := ["effect-start"]
  predicate : Option Predicate := none
  deriving Repr, Inhabited

/-- Recovery over time. -/
structure FastHealing where
  value : Number
  type : HealingType := .fastHealing
  source : String
  deactivatedBy : List String := []
  predicate : Option Predicate := none
  active : Bool := true
  deriving Repr, Inhabited

/-- A resistance to types of damage. -/
structure Resistance where
  types : List String
  value : Number
  exceptions : List String := []
  source : String
  predicate : Option Predicate := none
  deriving Repr, Inhabited

/-- A weakness to types of damage. -/
structure Weakness where
  types : List String
  value : Number
  source : String
  predicate : Option Predicate := none
  deriving Repr, Inhabited

/-- An immunity. -/
structure Immunity where
  type : ImmunityType
  values : List String
  source : String
  predicate : Option Predicate := none
  deriving Repr, Inhabited

/-- A change of size. -/
structure SizeChange where
  size : Option Size := none
  resizeBy : Int := 0
  maximumSize : Option Size := none
  minimumSize : Option Size := none
  source : String
  predicate : Option Predicate := none
  deriving Repr, Inhabited

/-- A change of traits. -/
structure TraitChange where
  add : List String := []
  remove : List String := []
  source : String
  predicate : Option Predicate := none
  deriving Repr, Inhabited

instance : Gated Modifier := ⟨Modifier.predicate⟩
instance : Gated DamageDice := ⟨DamageDice.predicate⟩
instance : Gated Speed := ⟨Speed.predicate⟩
instance : Gated Sense := ⟨Sense.predicate⟩
instance : Gated GrantedItem := ⟨GrantedItem.predicate⟩
instance : Gated ChoicePrompt := ⟨ChoicePrompt.predicate⟩
instance : Gated PropertyChange := ⟨PropertyChange.predicate⟩
instance : Gated RollOption := ⟨RollOption.predicate⟩
instance : Gated ToggleProperty := ⟨ToggleProperty.predicate⟩
instance : Gated WeaponPotency := ⟨WeaponPotency.predicate⟩
instance : Gated Striking := ⟨Striking.predicate⟩
instance : Gated TempHP := ⟨TempHP.predicate⟩
instance : Gated FastHealing := ⟨FastHealing.predicate⟩
instance : Gated Resistance := ⟨Resistance.predicate⟩
instance : Gated Weakness := ⟨Weakness.predicate⟩
instance : Gated Immunity := ⟨Immunity.predicate⟩
instance : Gated SizeChange := ⟨SizeChange.predicate⟩
instance : Gated TraitChange := ⟨TraitChange.predicate⟩

/-- What a single rule element comes to. -/
inductive Entry
  | modifier (entry : Modifier)
  | damageDice (entry : DamageDice)
  | speed (entry : Speed)
  | sense (entry : Sense)
  | grantedItem (entry : GrantedItem)
  | choicePrompt (entry : ChoicePrompt)
  | propertyChange (entry : PropertyChange)
  | rollOption (entry : RollOption)
  | toggleProperty (entry : ToggleProperty)
  | weaponPotency (entry : WeaponPotency)
  | striking (entry : Striking)
  | tempHP (entry : TempHP)
  | fastHealing (entry : FastHealing)
  | resistance (entry : Resistance)
  | weakness (entry : Weakness)
  | immunity (entry : Immunity)
  | sizeChange (entry : SizeChange)
  | traitChange (entry : TraitChange)
  deriving Repr, Inhabited

end RuleElements
