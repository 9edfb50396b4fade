import RuleElements.Character.Body
import RuleElements.Character.Damage
import RuleElements.Character.Property
import RuleElements.Character.State
import RuleElements.Choice.Prompt
import RuleElements.Choice.Toggle
import RuleElements.Source

/-!
# The character sheet

A sheet is built from the state of a character and its sources. Roll options are collected against
the base traits first, changes of traits see those options, and roll options are collected again
against the final traits; what applies then makes up the sheet.

Main definitions:
* `CharacterState.finalTraits`, `CharacterState.finalContext`: the two rounds of collecting.
* `Sheet.build`: the sheet, with the log of building it.
-/

namespace RuleElements

/-- A character sheet. -/
structure Sheet where
  name : String
  level : Int
  traits : List String
  size : Size
  speeds : List (String × Number)
  senses : List Sense
  resistances : List (String × Number)
  weaknesses : List (String × Number)
  immunities : List Immunity
  tempHP : Option TempHP
  fastHealing : Number
  damageDice : List (String × String)
  grantedItems : List GrantedItem
  propertyChanges : List PropertyChange
  pendingChoices : List ChoicePrompt
  toggles : List ToggleProperty
  rollOptions : List String
  statistics : List (String × Statistic)
  /-- what applies -/
  active : Aggregate
  logs : List String
  deriving Repr, Inhabited

namespace CharacterState

/-- The context with given traits, with the options that an aggregate puts in force in it. -/
def collectedContext (s : CharacterState) (a : Aggregate) (traits : List String) : Context :=
  s.context traits (a.activeOptions (s.context traits []))

/-- The traits after all changes that apply against the base traits. -/
def finalTraits (s : CharacterState) (a : Aggregate) : List String :=
  Trait.final s.traits a.traitChanges (some (s.collectedContext a s.traits))

/-- The context that decides what applies. -/
def finalContext (s : CharacterState) (a : Aggregate) : Context :=
  s.collectedContext a (s.finalTraits a)

/-- What applies in a context, with the penalties of conditions. -/
def activeEntries (s : CharacterState) (a : Aggregate) (ctx : Context) : Aggregate :=
  let kept := a.filter ctx
  { kept with modifiers := kept.modifiers ++ conditionModifiers s.conditions }

end CharacterState

namespace Sheet

/-- The selectors of modifiers to a speed: its own one, and those that it includes. -/
def speedSelectors (type : String) : String × List String :=
  if type = "land" then ("land-speed", ["speed", "all-speeds"])
  else (type ++ "-speed", ["all-speeds"])

/-- The speeds of a state, raised by those of entries. -/
def raisedSpeeds (base : List (String × Int)) (speeds : List Speed) : List (String × Number) :=
  (Speed.byType speeds none).foldl
    (fun known (type, value) =>
      Fields.set known type (((Fields.get? known type).getD (.integer 0)).larger value))
    (Fields.mapValues Number.integer base)

/-- A speed with the modifiers that are aimed at it. -/
def modifiedSpeed (active : Aggregate) (ctx : Context) (speed : String × Number) :
    Except ArithmeticFault (String × Number) :=
  let (selector, included) := speedSelectors speed.1
  (active.valueOf (some ctx) selector speed.2 included).map fun value => (speed.1, value)

/-- The sheet of a character with its traits, from what applies in a context. -/
def ofActive (state : CharacterState) (traits : List String) (ctx : Context) (active : Aggregate)
    (speeds : List (String × Number)) (fastHealing : Number) (logs : List String) : Sheet where
  name := state.name
  level := state.level
  traits
  size := state.size.after active.sizeChanges none
  speeds
  senses := Sense.consolidate (Sense.active active.senses none)
  resistances := (sortedTexts (active.resistances.flatMap (·.types))).map fun type =>
    (type, Resistance.against active.resistances type none none)
  weaknesses := (sortedTexts (active.weaknesses.flatMap (·.types))).map fun type =>
    (type, Weakness.against active.weaknesses type none)
  immunities := active.immunities
  tempHP := TempHP.active active.tempHP none
  fastHealing
  damageDice := (sortedTexts (active.damageDice.map (·.selector))).map fun selector =>
    (selector, DicePool.describeAll (DamageDice.pools active.damageDice (some selector) none))
  grantedItems := GrantedItem.active active.grantedItems none
  propertyChanges := PropertyChange.sorted active.propertyChanges
  pendingChoices := active.choicePrompts.filter (!·.isComplete)
  toggles := active.toggleProperties
  rollOptions := sortedTexts ctx.options
  statistics := active.selectors.map fun selector =>
    (selector, active.statistic (some ctx) selector (.integer 0) [])
  active
  logs

/-- The sheet of a character, from what its sources give. -/
def ofAggregate (state : CharacterState) (merged : Aggregate) : Except ArithmeticFault Sheet := do
  let ctx := state.finalContext merged
  let active := state.activeEntries merged ctx
  let speeds ← (raisedSpeeds state.baseSpeeds active.speeds).mapM (modifiedSpeed active ctx)
  let fastHealing ← FastHealing.total active.fastHealing [] none
  return ofActive state (state.finalTraits merged) ctx active speeds fastHealing merged.logs

/-- The sheet of a character with its sources, and the log of building it. -/
def build (state : CharacterState) (sources : List RuleSource) :
    Except ArithmeticFault (Sheet × List LogLine) := do
  let pass := Pass.merge (← RuleSource.processAll sources state.level (some state.choices))
  let sheet ← ofAggregate state pass.aggregate
  let done := "Built sheet for " ++ state.name ++ ": " ++ toString sheet.active.total ++
    " active entries"
  return (sheet, pass.log ++ [.debug .sheet done])

/-- The speeds in words. -/
def speedText (s : Sheet) : String := Speed.describe s.speeds

/-- The temporary hit points; zero if there are none. -/
def tempHPValue (s : Sheet) : Number := (s.tempHP.map (·.value)).getD (.integer 0)

/-- What a granted item is called: its identifier, or the name of the item. -/
def itemName (g : GrantedItem) : Data :=
  match nonEmpty? g.uuid with
  | some uuid => .text uuid
  | none => (Fields.get? (g.item.getD []) "name").getD .null

/-- The sheet as raw data. -/
def toData (s : Sheet) : Except ArithmeticFault Data := do
  let totals ← s.statistics.mapM fun (selector, statistic) => do
    return (selector, Data.number (← statistic.total))
  return .object [("name", .text s.name), ("level", .int s.level), ("traits", .texts s.traits),
    ("size", .ofWord s.size), ("space", .number s.size.space), ("reach", .int s.size.reach),
    ("speeds", .object (Fields.mapValues Data.number s.speeds)),
    ("senses", .texts (s.senses.map (·.label))),
    ("resistances", .object (Fields.mapValues Data.number s.resistances)),
    ("weaknesses", .object (Fields.mapValues Data.number s.weaknesses)),
    ("immunities", .list (s.immunities.map (·.toData))),
    ("temp_hp", .number s.tempHPValue),
    ("fast_healing", .number s.fastHealing),
    ("damage_dice", .object (Fields.mapValues Data.text s.damageDice)),
    ("granted_items", .list (s.grantedItems.map itemName)),
    ("property_modifications", .list (s.propertyChanges.map (·.toData))),
    ("pending_choices", .texts (s.pendingChoices.map (·.flag))),
    ("toggles", .object (Fields.ofPairs (s.toggles.map fun t => (t.property, .boolean t.enabled)))),
    ("roll_options", .texts s.rollOptions), ("statistics", .object totals),
    ("logs", .texts s.logs)]

end Sheet

end RuleElements
