import RuleElements.Entry.Writer

/-!
# Aggregates

An aggregate holds the entries that a pass over rule elements gives, one ordered list for each sort,
and the remarks made on the way.

Main definitions:
* `Aggregate.insert`: an entry goes to the end of its list; a potency rune also adds its two
  modifiers.
* `Aggregate.append`, `Aggregate.merge`: lists are joined sort by sort.
* `Aggregate.filter`: the entries that apply in a context.

Results:
* `Aggregate.append_assoc`, `Aggregate.empty_append`, `Aggregate.append_empty`: joining is a monoid.
* `Aggregate.total_append`: the total of a join is the sum of the totals.
-/

namespace RuleElements

/-- The entries of a pass, and its remarks. -/
structure Aggregate where
  modifiers : List Modifier := []
  damageDice : List DamageDice := []
  speeds : List Speed := []
  senses : List Sense := []
  grantedItems : List GrantedItem := []
  choicePrompts : List ChoicePrompt := []
  propertyChanges : List PropertyChange := []
  rollOptions : List RollOption := []
  toggleProperties : List ToggleProperty := []
  weaponPotencies : List WeaponPotency := []
  strikings : List Striking := []
  tempHP : List TempHP := []
  fastHealing : List FastHealing := []
  resistances : List Resistance := []
  weaknesses : List Weakness := []
  immunities : List Immunity := []
  sizeChanges : List SizeChange := []
  traitChanges : List TraitChange := []
  logs : List String := []
  deriving Repr, Inhabited

namespace Aggregate

/-- The aggregate without entries and remarks. -/
def empty : Aggregate := {}

/-- The aggregate with an entry at the end of its list. A potency rune is followed by its attack and
its damage modifier. -/
def insert (a : Aggregate) : Entry → Aggregate
  | .modifier e => { a with modifiers := a.modifiers ++ [e] }
  | .damageDice e => { a with damageDice := a.damageDice ++ [e] }
  | .speed e => { a with speeds := a.speeds ++ [e] }
  | .sense e => { a with senses := a.senses ++ [e] }
  | .grantedItem e => { a with grantedItems := a.grantedItems ++ [e] }
  | .choicePrompt e => { a with choicePrompts := a.choicePrompts ++ [e] }
  | .propertyChange e => { a with propertyChanges := a.propertyChanges ++ [e] }
  | .rollOption e => { a with rollOptions := a.rollOptions ++ [e] }
  | .toggleProperty e => { a with toggleProperties := a.toggleProperties ++ [e] }
  | .weaponPotency e =>
    { a with
      weaponPotencies := a.weaponPotencies ++ [e]
      modifiers := a.modifiers ++ [e.attackModifier, e.damageModifier] }
  | .striking e => { a with strikings := a.strikings ++ [e] }
  | .tempHP e => { a with tempHP := a.tempHP ++ [e] }
  | .fastHealing e => { a with fastHealing := a.fastHealing ++ [e] }
  | .resistance e => { a with resistances := a.resistances ++ [e] }
  | .weakness e => { a with weaknesses := a.weaknesses ++ [e] }
  | .immunity e => { a with immunities := a.immunities ++ [e] }
  | .sizeChange e => { a with sizeChanges := a.sizeChanges ++ [e] }
  | .traitChange e => { a with traitChanges := a.traitChanges ++ [e] }

/-- The aggregate with a remark at the end of its remarks. -/
def note (a : Aggregate) (line : String) : Aggregate := { a with logs := a.logs ++ [line] }

/-- The entries of `a` followed by those of `b`, sort by sort. -/
def append (a b : Aggregate) : Aggregate where
  modifiers := a.modifiers ++ b.modifiers
  damageDice := a.damageDice ++ b.damageDice
  speeds := a.speeds ++ b.speeds
  senses := a.senses ++ b.senses
  grantedItems := a.grantedItems ++ b.grantedItems
  choicePrompts := a.choicePrompts ++ b.choicePrompts
  propertyChanges := a.propertyChanges ++ b.propertyChanges
  rollOptions := a.rollOptions ++ b.rollOptions
  toggleProperties := a.toggleProperties ++ b.toggleProperties
  weaponPotencies := a.weaponPotencies ++ b.weaponPotencies
  strikings := a.strikings ++ b.strikings
  tempHP := a.tempHP ++ b.tempHP
  fastHealing := a.fastHealing ++ b.fastHealing
  resistances := a.resistances ++ b.resistances
  weaknesses := a.weaknesses ++ b.weaknesses
  immunities := a.immunities ++ b.immunities
  sizeChanges := a.sizeChanges ++ b.sizeChanges
  traitChanges := a.traitChanges ++ b.traitChanges
  logs := a.logs ++ b.logs

instance : Append Aggregate := ⟨append⟩

/-- Aggregates joined in order. -/
def merge (parts : List Aggregate) : Aggregate := parts.foldl append empty

/-- The entries that apply in a context; remarks stay. -/
def filter (ctx : Context) (a : Aggregate) : Aggregate where
  modifiers := a.modifiers.filter (Gated.applies ctx)
  damageDice := a.damageDice.filter (Gated.applies ctx)
  speeds := a.speeds.filter (Gated.applies ctx)
  senses := a.senses.filter (Gated.applies ctx)
  grantedItems := a.grantedItems.filter (Gated.applies ctx)
  choicePrompts := a.choicePrompts.filter (Gated.applies ctx)
  propertyChanges := a.propertyChanges.filter (Gated.applies ctx)
  rollOptions := a.rollOptions.filter (Gated.applies ctx)
  toggleProperties := a.toggleProperties.filter (Gated.applies ctx)
  weaponPotencies := a.weaponPotencies.filter (Gated.applies ctx)
  strikings := a.strikings.filter (Gated.applies ctx)
  tempHP := a.tempHP.filter (Gated.applies ctx)
  fastHealing := a.fastHealing.filter (Gated.applies ctx)
  resistances := a.resistances.filter (Gated.applies ctx)
  weaknesses := a.weaknesses.filter (Gated.applies ctx)
  immunities := a.immunities.filter (Gated.applies ctx)
  sizeChanges := a.sizeChanges.filter (Gated.applies ctx)
  traitChanges := a.traitChanges.filter (Gated.applies ctx)
  logs := a.logs

/-- The number of entries. -/
def total (a : Aggregate) : Nat :=
  a.modifiers.length + a.damageDice.length + a.speeds.length + a.senses.length +
    a.grantedItems.length + a.choicePrompts.length + a.propertyChanges.length +
    a.rollOptions.length + a.toggleProperties.length + a.weaponPotencies.length +
    a.strikings.length + a.tempHP.length + a.fastHealing.length + a.resistances.length +
    a.weaknesses.length + a.immunities.length + a.sizeChanges.length + a.traitChanges.length

/-- The lists of entries by their names, as raw data. -/
def buckets (a : Aggregate) : List (String × List Data) :=
  [("modifiers", a.modifiers.map (·.toData)), ("damage_dice", a.damageDice.map (·.toData)),
    ("speeds", a.speeds.map (·.toData)), ("senses", a.senses.map (·.toData)),
    ("granted_items", a.grantedItems.map (·.toData)),
    ("choice_sets", a.choicePrompts.map (·.toData)),
    ("property_modifications", a.propertyChanges.map (·.toData)),
    ("roll_options", a.rollOptions.map (·.toData)),
    ("toggle_properties", a.toggleProperties.map (·.toData)),
    ("weapon_potencies", a.weaponPotencies.map (·.toData)),
    ("striking_bonuses", a.strikings.map (·.toData)), ("temp_hp", a.tempHP.map (·.toData)),
    ("fast_healing", a.fastHealing.map (·.toData)),
    ("resistances", a.resistances.map (·.toData)), ("weaknesses", a.weaknesses.map (·.toData)),
    ("immunities", a.immunities.map (·.toData)),
    ("size_modifiers", a.sizeChanges.map (·.toData)),
    ("trait_modifications", a.traitChanges.map (·.toData))]

/-- The aggregate as raw data: all lists of entries, and the remarks. -/
def toData (a : Aggregate) : Data :=
  .object (Fields.mapValues Data.list a.buckets ++ [("logs", .texts a.logs)])

theorem append_assoc (a b c : Aggregate) : (a ++ b) ++ c = a ++ (b ++ c) := by
  show append (append a b) c = append a (append b c)
  simp only [append, List.append_assoc]

theorem empty_append (a : Aggregate) : empty ++ a = a := by
  show append empty a = a
  simp only [append, empty, List.nil_append]

theorem append_empty (a : Aggregate) : a ++ empty = a := by
  show append a empty = a
  simp only [append, empty, List.append_nil]

/-- The total of a join is the sum of the totals. -/
theorem total_append (a b : Aggregate) : (a ++ b).total = a.total + b.total := by
  show (append a b).total = a.total + b.total
  simp only [append, total, List.length_append]
  omega

end Aggregate

end RuleElements
