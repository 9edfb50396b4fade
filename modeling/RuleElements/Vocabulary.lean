import RuleElements.Schema.Reader

/-!
# The fixed words of the rules

Types of modifiers, ways of adjusting, phases, acuities, sizes and the other closed lists of words
that rule elements are written with.
-/

namespace RuleElements

/-- The type of a modifier, which decides what it stacks with. -/
inductive ModifierType
  | status
  | circumstance
  | item
  | untyped
  deriving DecidableEq, Repr, Inhabited

instance : Worded ModifierType where
  all := [.status, .circumstance, .item, .untyped]
  word
    | .status => "status"
    | .circumstance => "circumstance"
    | .item => "item"
    | .untyped => "untyped"

/-- How an adjustment changes the value of a modifier. -/
inductive AdjustMode
  | add
  | multiply
  | override
  | upgrade
  | downgrade
  deriving DecidableEq, Repr, Inhabited

instance : Worded AdjustMode where
  all := [.add, .multiply, .override, .upgrade, .downgrade]
  word
    | .add => "add"
    | .multiply => "multiply"
    | .override => "override"
    | .upgrade => "upgrade"
    | .downgrade => "downgrade"

/-- How a property of the character is changed. -/
inductive PropertyMode
  | add
  | subtract
  | multiply
  | override
  | upgrade
  | downgrade
  deriving DecidableEq, Repr, Inhabited

instance : Worded PropertyMode where
  all := [.add, .subtract, .multiply, .override, .upgrade, .downgrade]
  word
    | .add => "add"
    | .subtract => "subtract"
    | .multiply => "multiply"
    | .override => "override"
    | .upgrade => "upgrade"
    | .downgrade => "downgrade"

/-- When a property is changed. -/
inductive Phase
  | applyEffects
  | beforeDerived
  | afterDerived
  | beforeRoll
  deriving DecidableEq, Repr, Inhabited

instance : Worded Phase where
  all := [.applyEffects, .beforeDerived, .afterDerived, .beforeRoll]
  word
    | .applyEffects => "applyAEs"
    | .beforeDerived => "beforeDerived"
    | .afterDerived => "afterDerived"
    | .beforeRoll => "beforeRoll"

/-- The place of a phase in the order of phases. -/
def Phase.order : Phase → Nat
  | .applyEffects => 1
  | .beforeDerived => 2
  | .afterDerived => 3
  | .beforeRoll => 4

/-- How sharp a sense is. -/
inductive Acuity
  | precise
  | imprecise
  | vague
  deriving DecidableEq, Repr, Inhabited

instance : Worded Acuity where
  all := [.precise, .imprecise, .vague]
  word
    | .precise => "precise"
    | .imprecise => "imprecise"
    | .vague => "vague"

/-- Sharper senses rank higher. -/
def Acuity.rank : Acuity → Nat
  | .precise => 3
  | .imprecise => 2
  | .vague => 1

/-- The size of a creature. -/
inductive Size
  | tiny
  | small
  | medium
  | large
  | huge
  | gargantuan
  deriving DecidableEq, Repr, Inhabited

namespace Size

/-- The sizes from the smallest to the largest. -/
def ascending : List Size := [.tiny, .small, .medium, .large, .huge, .gargantuan]

instance : Worded Size where
  all := ascending
  word
    | .tiny => "tiny"
    | .small => "small"
    | .medium => "medium"
    | .large => "large"
    | .huge => "huge"
    | .gargantuan => "gargantuan"

/-- The place of a size in the order of sizes. -/
def rank : Size → Nat
  | .tiny => 0
  | .small => 1
  | .medium => 2
  | .large => 3
  | .huge => 4
  | .gargantuan => 5

/-- The size at a place in the order; beyond the ends the outermost one. -/
def ofRank (n : Int) : Size :=
  if n ≤ 0 then .tiny
  else if n = 1 then .small
  else if n = 2 then .medium
  else if n = 3 then .large
  else if n = 4 then .huge
  else .gargantuan

theorem ofRank_rank (s : Size) : ofRank s.rank = s := by cases s <;> rfl

theorem rank_ofRank (n : Int) : ((ofRank n).rank : Int) = max 0 (min 5 n) := by
  unfold ofRank
  repeat' split
  all_goals simp only [rank]; omega

end Size

/-- The two kinds of recovery over time. -/
inductive HealingType
  | fastHealing
  | regeneration
  deriving DecidableEq, Repr, Inhabited

instance : Worded HealingType where
  all := [.fastHealing, .regeneration]
  word
    | .fastHealing => "fast-healing"
    | .regeneration => "regeneration"

/-- What an immunity is against. -/
inductive ImmunityType
  | damage
  | condition
  | effect
  | criticalHits
  | precisionDamage
  deriving DecidableEq, Repr, Inhabited

instance : Worded ImmunityType where
  all := [.damage, .condition, .effect, .criticalHits, .precisionDamage]
  word
    | .damage => "damage"
    | .condition => "condition"
    | .effect => "effect"
    | .criticalHits => "critical-hits"
    | .precisionDamage => "precision-damage"

/-- The categories of damage beside the plain one. -/
inductive DamageCategory
  | persistent
  | precision
  | splash
  deriving DecidableEq, Repr, Inhabited

instance : Worded DamageCategory where
  all := [.persistent, .precision, .splash]
  word
    | .persistent => "persistent"
    | .precision => "precision"
    | .splash => "splash"

/-- What a source of rule elements is. -/
inductive SourceKind
  | feat
  | classFeature
  | ancestry
  | heritage
  | background
  | equipment
  | condition
  | spell
  | effect
  deriving DecidableEq, Repr, Inhabited

instance : Worded SourceKind where
  all := [.feat, .classFeature, .ancestry, .heritage, .background, .equipment, .condition, .spell,
    .effect]
  word
    | .feat => "feat"
    | .classFeature => "class-feature"
    | .ancestry => "ancestry"
    | .heritage => "heritage"
    | .background => "background"
    | .equipment => "equipment"
    | .condition => "condition"
    | .spell => "spell"
    | .effect => "effect"

/-- A value with a fixed word as raw data. -/
def Data.ofWord {α : Type} [Worded α] (a : α) : Data := .text (Worded.word a)

end RuleElements
