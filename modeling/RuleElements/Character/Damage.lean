import RuleElements.Aggregate
import RuleElements.Entry.Basic

/-!
# Damage

Dice of one size and one type of damage are thrown together, and more of them with a striking rune.
Damage comes in packets. Each is adjusted on its own: an immunity cancels it, the highest resistance
is taken off, and if any damage is left the highest weakness is added. Against it stand temporary
hit points, which do not stack, and recovery over time, which adds up.

Main definitions:
* `DamageDice.pools`, `Striking.totalDice`: what is thrown.
* `Resistance.against`, `Weakness.against`, `Immunity.toDamage`: what stands against damage.
* `DamagePacket.suffer`: a packet against the defences of an aggregate.
* `DamagePacket.sufferAll`: packets in order, with their total.
* `TempHP.active`, `FastHealing.total`: temporary hit points and recovery.
-/

namespace RuleElements

/-! ## Damage dice -/

/-- Dice that are thrown together, and where they come from. -/
structure DicePool where
  diceNumber : Int
  dieSize : String
  damageType : String
  sources : List String
  deriving Repr, Inhabited

namespace DamageDice

/-- The key of the pool that dice belong to. -/
def poolKey (d : DamageDice) : String := d.dieSize ++ "-" ++ d.damageType

/-- The pools with further dice put in. -/
def gather (pools : List (String × DicePool)) (d : DamageDice) : List (String × DicePool) :=
  let pool := (Fields.get? pools d.poolKey).getD ⟨0, d.dieSize, d.damageType, []⟩
  Fields.set pools d.poolKey
    { pool with
      diceNumber := pool.diceNumber + d.diceNumber
      sources := pool.sources ++ [d.source] }

/-- Whether dice count: they are switched on, apply, and are aimed at the selector if there is one.
-/
def counts (ctx : Option Context) (selector : Option String) (d : DamageDice) : Bool :=
  d.enabled && Gated.appliesIn ctx d && selector.all (d.selector == ·)

/-- The pools of the dice that count, by key, in the order of first occurrence. -/
def pools (dice : List DamageDice) (selector : Option String) (ctx : Option Context) :
    List (String × DicePool) :=
  (dice.filter (counts ctx selector)).foldl gather []

end DamageDice

/-- A pool in words. -/
def DicePool.describe (pool : DicePool) : String :=
  toString pool.diceNumber ++ pool.dieSize ++
    if pool.damageType = "untyped" then "" else " " ++ pool.damageType

/-- Pools in words. -/
def DicePool.describeAll (pools : List (String × DicePool)) : String :=
  " + ".intercalate (pools.map (·.2.describe))

/-! ## Resistances, weaknesses and immunities

Neither resistances nor weaknesses stack: the highest one against a type of damage counts. A
resistance or weakness to `all` is against every type, and one to `physical` against the three
physical types.
-/

/-- The physical types of damage. -/
def physicalTypes : List String := ["bludgeoning", "piercing", "slashing"]

/-- Whether something against the listed types is against a type of damage. -/
def coversDamage (types : List String) (damageType : String) : Bool :=
  types.contains damageType || types.contains "all" ||
    (types.contains "physical" && physicalTypes.contains damageType)

namespace Resistance

/-- Whether a resistance is against damage of a type from a source. -/
def resists (ctx : Option Context) (damageType : String) (source : Option String)
    (r : Resistance) : Bool :=
  Gated.appliesIn ctx r && coversDamage r.types damageType &&
    !source.any fun name => name != "" && r.exceptions.contains name

/-- The highest resistance against damage of a type from a source; zero if there is none. -/
def against (resistances : List Resistance) (damageType : String) (source : Option String)
    (ctx : Option Context) : Number :=
  ((resistances.filter (resists ctx damageType source)).map (·.value)).foldl Number.larger
    (.integer 0)

/-- Damage less a resistance, and not below zero. -/
def reduce (damage resistance : Number) : Except ArithmeticFault Number :=
  (damage.sub resistance).map ((Number.integer 0).larger ·)

end Resistance

namespace Weakness

/-- The highest weakness to damage of a type; zero if there is none. -/
def against (weaknesses : List Weakness) (damageType : String) (ctx : Option Context) : Number :=
  ((weaknesses.filter fun w =>
    Gated.appliesIn ctx w && coversDamage w.types damageType).map (·.value)).foldl Number.larger
      (.integer 0)

/-- Damage with a weakness added, if there is any damage. -/
def increase (damage weakness : Number) : Except ArithmeticFault Number :=
  if damage.isPositive then damage.add weakness else .ok (.integer 0)

end Weakness

namespace Immunity

/-- Whether there is an immunity of a type that names something. -/
def names (immunities : List Immunity) (type : ImmunityType) (value : String) : Bool :=
  immunities.any fun i => i.type == type && i.values.contains value

/-- Whether there is an immunity of a type, whatever it names. -/
def occurs (immunities : List Immunity) (type : ImmunityType) : Bool :=
  immunities.any (·.type == type)

/-- Whether damage of a type has no effect. -/
def toDamage (immunities : List Immunity) (damageType : String) : Bool :=
  names immunities .damage damageType

/-- Damage of a type after immunities. -/
def reduce (damage : Number) (damageType : String) (immunities : List Immunity) : Number :=
  if toDamage immunities damageType then .integer 0 else damage

end Immunity

/-! ## Packets of damage -/

/-- An amount of damage of a type, from a named origin if that matters. -/
structure DamagePacket where
  amount : Number
  damageType : String
  source : Option String := none
  deriving Repr, Inhabited

/-- What packets of damage come to. -/
structure DamageOutcome where
  total : Int
  finals : List Int
  logs : List String
  deriving Repr, Inhabited

namespace DamagePacket

/-- How a change of an amount is written down. -/
def changeLine (verb damageType : String) (cause : Number) (before after : Int) : String :=
  "[Dmg] " ++ verb ++ " " ++ damageType ++ " " ++ cause.text ++ " → " ++ toString before ++ "->" ++
    toString after

/-- An amount after the highest resistance, with the line that says so. -/
def resist (defences : Aggregate) (packet : DamagePacket) (amount : Int) :
    Except ArithmeticFault (Int × List String) := do
  let resistance := Resistance.against defences.resistances packet.damageType packet.source none
  if resistance.isZero then return (amount, [])
  let reduced ← (← Resistance.reduce (.integer amount) resistance).truncate
  return (reduced, [changeLine "Resist" packet.damageType resistance amount reduced])

/-- An amount after the highest weakness, with the line that says so. -/
def weaken (defences : Aggregate) (packet : DamagePacket) (amount : Int) :
    Except ArithmeticFault (Int × List String) := do
  let weakness := Weakness.against defences.weaknesses packet.damageType none
  if weakness.isZero || amount ≤ 0 then return (amount, [])
  let increased ← (← Weakness.increase (.integer amount) weakness).truncate
  return (increased, [changeLine "Weakness" packet.damageType weakness amount increased])

/-- The final amount of a packet, and how it comes about. -/
def suffer (defences : Aggregate) (packet : DamagePacket) :
    Except ArithmeticFault (Int × List String) := do
  let amount := max 0 (← packet.amount.truncate)
  if Immunity.toDamage defences.immunities packet.damageType then
    return (0, ["[Dmg] Immune to " ++ packet.damageType ++ " (ignored " ++ toString amount ++ ")"])
  let (amount, resisted) ← resist defences packet amount
  let (amount, weakened) ← weaken defences packet amount
  return (amount, resisted ++ weakened)

/-- The final amounts of packets in order, and their total. -/
def sufferAll (defences : Aggregate) (packets : List DamagePacket) :
    Except ArithmeticFault DamageOutcome := do
  let results ← packets.mapM (suffer defences)
  let total := (results.map (·.1)).foldl (· + ·) 0
  return {
    total
    finals := results.map (·.1)
    logs := results.flatMap (·.2) ++ ["[Dmg] Total " ++ toString total] }

end DamagePacket

/-- The defences of an aggregate in a context; without a context all of them. -/
def Aggregate.defences (a : Aggregate) (ctx : Option Context) : Aggregate :=
  match ctx with
  | none => a
  | some ctx => a.filter ctx

/-! ## Striking runes, temporary hit points and recovery

Striking runes and temporary hit points do not stack; recovery over time adds up, unless a type of
damage has stopped it.
-/

namespace Striking

/-- The name of a striking rune by its rank. -/
def label (extraDice : Int) : String :=
  if extraDice = 1 then "Striking"
  else if extraDice = 2 then "Greater Striking"
  else if extraDice = 3 then "Major Striking"
  else ""

/-- The number of dice with the best striking rune that applies. -/
def totalDice (base : Int) (strikings : List Striking) (ctx : Option Context) : Int :=
  base + (((strikings.filter (Gated.appliesIn ctx)).map (·.extraDice)).max?).getD 0

end Striking

namespace TempHP

/-- The better of the best so far and a further source. -/
def keepBest (best : Option TempHP) (t : TempHP) : Option TempHP :=
  match best with
  | none => some t
  | some b => if b.value.lt t.value then some t else some b

/-- The source that counts: the highest one that applies, the first one among equals. -/
def active (sources : List TempHP) (ctx : Option Context) : Option TempHP :=
  (sources.filter (Gated.appliesIn ctx)).foldl keepBest none

end TempHP

namespace FastHealing

/-- Whether a source heals: it is active, applies, and no recent damage has stopped it. -/
def heals (recent : List String) (ctx : Option Context) (f : FastHealing) : Bool :=
  f.active && Gated.appliesIn ctx f && !f.deactivatedBy.any recent.contains

/-- The sum of the sources that heal. -/
def total (sources : List FastHealing) (recent : List String) (ctx : Option Context) :
    Except ArithmeticFault Number :=
  Number.sum ((sources.filter (heals recent ctx)).map (·.value))

/-- A source after damage of a type. -/
def deactivate (damageType : String) (f : FastHealing) : FastHealing :=
  if f.deactivatedBy.contains damageType then { f with active := false } else f

/-- A source after it has set in again. -/
def reactivate (f : FastHealing) : FastHealing := { f with active := true }

end FastHealing

end RuleElements
