import RuleElements.Aggregate

/-!
# Aggregates bucket by bucket

An aggregate has one list of entries for each kind of rule element, and `Aggregate.bucket` reads
them by the kind. The modifiers stand apart: they are a pool that potency runes feed as well, and
whose values and sources adjustments change. `Modifier.outline` is what adjustments leave alone.

Main definitions:
* `Entry.kind`, `Entry.modifiers`: where an entry goes, and what it adds to the pool.
* `Aggregate.bucket`: the entries of a kind.
* `Modifier.outline`: a modifier without its value and source.

Results:
* `Aggregate.insert_eq_append`: to insert an entry is to join the aggregate of that entry alone.
* `Aggregate.bucket_append`, `Entry.bucket_toAggregate`: the buckets of a join and of an entry.
-/

namespace RuleElements

/-- The kind of the rule elements that give an entry. -/
def Entry.kind : Entry → Kind
  | .modifier _ => .flatModifier
  | .damageDice _ => .damageDice
  | .speed _ => .baseSpeed
  | .sense _ => .sense
  | .grantedItem _ => .grantItem
  | .choicePrompt _ => .choiceSet
  | .propertyChange _ => .activeEffectLike
  | .rollOption _ => .rollOption
  | .toggleProperty _ => .toggleProperty
  | .weaponPotency _ => .weaponPotency
  | .striking _ => .striking
  | .tempHP _ => .tempHP
  | .fastHealing _ => .fastHealing
  | .resistance _ => .resistance
  | .weakness _ => .weakness
  | .immunity _ => .immunity
  | .sizeChange _ => .creatureSize
  | .traitChange _ => .actorTraits

/-- The modifiers that an entry adds to the pool: itself, or those of a potency rune, that to
attacks first. -/
def Entry.modifiers : Entry → List Modifier
  | .modifier m => [m]
  | .weaponPotency w => [w.attackModifier, w.damageModifier]
  | _ => []

/-- The aggregate of a single entry. -/
def Entry.toAggregate (entry : Entry) : Aggregate := Aggregate.empty.insert entry

/-- What an adjustment leaves alone: all of a modifier but its value and its source. -/
def Modifier.outline (m : Modifier) : Modifier := { m with value := .integer 0, source := "" }

namespace Aggregate

/-- The entries of a kind, in order. -/
def bucket (a : Aggregate) : Kind → List Entry
  | .flatModifier => a.modifiers.map .modifier
  | .adjustModifier => []
  | .damageDice => a.damageDice.map .damageDice
  | .baseSpeed => a.speeds.map .speed
  | .sense => a.senses.map .sense
  | .grantItem => a.grantedItems.map .grantedItem
  | .choiceSet => a.choicePrompts.map .choicePrompt
  | .activeEffectLike => a.propertyChanges.map .propertyChange
  | .rollOption => a.rollOptions.map .rollOption
  | .toggleProperty => a.toggleProperties.map .toggleProperty
  | .weaponPotency => a.weaponPotencies.map .weaponPotency
  | .striking => a.strikings.map .striking
  | .tempHP => a.tempHP.map .tempHP
  | .fastHealing => a.fastHealing.map .fastHealing
  | .resistance => a.resistances.map .resistance
  | .weakness => a.weaknesses.map .weakness
  | .immunity => a.immunities.map .immunity
  | .creatureSize => a.sizeChanges.map .sizeChange
  | .actorTraits => a.traitChanges.map .traitChange

/-- The aggregate with other modifiers. -/
def withModifiers (a : Aggregate) (modifiers : List Modifier) : Aggregate :=
  { a with modifiers }

/-- The aggregate of a single remark. -/
def ofLine (line : String) : Aggregate := { logs := [line] }

/-! ## Joins -/

@[simp] theorem modifiers_append (a b : Aggregate) :
    (a ++ b).modifiers = a.modifiers ++ b.modifiers := rfl

@[simp] theorem logs_append (a b : Aggregate) : (a ++ b).logs = a.logs ++ b.logs := rfl

@[simp] theorem bucket_append (a b : Aggregate) (k : Kind) :
    (a ++ b).bucket k = a.bucket k ++ b.bucket k := by
  cases k <;> first | rfl | exact List.map_append

@[simp] theorem modifiers_withModifiers (a : Aggregate) (ms : List Modifier) :
    (a.withModifiers ms).modifiers = ms := rfl

@[simp] theorem logs_withModifiers (a : Aggregate) (ms : List Modifier) :
    (a.withModifiers ms).logs = a.logs := rfl

/-- The modifiers are the bucket of their own kind only. -/
theorem bucket_withModifiers (a : Aggregate) (ms : List Modifier) {k : Kind}
    (hk : k ≠ .flatModifier) : (a.withModifiers ms).bucket k = a.bucket k := by
  cases k <;> first | rfl | exact absurd rfl hk

/-- **An entry is joined on.** -/
theorem insert_eq_append (a : Aggregate) (entry : Entry) :
    a.insert entry = a ++ entry.toAggregate := by
  show a.insert entry = append a entry.toAggregate
  cases entry <;>
    simp only [insert, Entry.toAggregate, empty, append, List.append_nil, List.nil_append]

/-- A remark is joined on. -/
theorem note_eq_append (a : Aggregate) (line : String) : a.note line = a ++ ofLine line := by
  show a.note line = append a (ofLine line)
  simp only [note, ofLine, append, List.append_nil]

@[simp] theorem bucket_ofLine (line : String) (k : Kind) : (ofLine line).bucket k = [] := by
  cases k <;> rfl

@[simp] theorem bucket_empty (k : Kind) : empty.bucket k = [] := by cases k <;> rfl

end Aggregate

namespace Entry

@[simp] theorem modifiers_toAggregate (entry : Entry) :
    entry.toAggregate.modifiers = entry.modifiers := by
  cases entry <;> rfl

@[simp] theorem logs_toAggregate (entry : Entry) : entry.toAggregate.logs = [] := by
  cases entry <;> rfl

/-- **An entry stands in the bucket of its own kind** and in no other; the pool of modifiers is
`modifiers_toAggregate`. -/
theorem bucket_toAggregate (entry : Entry) {k : Kind} (hk : k ≠ .flatModifier) :
    entry.toAggregate.bucket k = [entry].filter (·.kind = k) := by
  cases entry <;> cases k <;> first | rfl | exact absurd rfl hk

end Entry

end RuleElements
