import RuleElements.Library.Load
import RuleElements.Source

/-!
# The bundled content

The sources that come with the engine: ancestries and heritages, class features, spells and effects,
equipment, and feats.

Main definitions:
* `Content.rule`, `Content.modifier`: short forms for authoring.
* `Content.bundle`: the index of the bundled sources.
-/

namespace RuleElements.Content

/-! ## Authoring rules

A rule is a kind with further fields.
-/

/-- A rule of a kind. -/
def rule (kind : String) (fields : List (String × Data)) : List (String × Data) :=
  ("key", .text kind) :: fields

/-- A modifier aimed at a selector. -/
def modifier (selector : String) (value : Data) (fields : List (String × Data)) :
    List (String × Data) :=
  rule "FlatModifier" ([("selector", .text selector), ("value", value)] ++ fields)

/-! ## Ancestries and heritages -/

/-- The dwarf ancestry. -/
def dwarf : RuleSource where
  id := "ancestry.dwarf"
  name := "Dwarf"
  kind := .ancestry
  rules := [
    rule "BaseSpeed" [("selector", .text "land"), ("value", .int 20)],
    rule "Sense" [("selector", .text "darkvision")],
    rule "ActorTraits" [("add", .texts ["Dwarf", "Humanoid"])]]

/-- The rock dwarf heritage. -/
def rockDwarf : RuleSource where
  id := "heritage.rock-dwarf"
  name := "Rock Dwarf"
  kind := .heritage
  rules := [
    modifier "fortitude" (.int 2)
      [("type", .text "circumstance"), ("label", .text "Rock Dwarf"),
        ("predicate", .texts ["shove-or-trip"])]]

/-- The elf ancestry. -/
def elf : RuleSource where
  id := "ancestry.elf"
  name := "Elf"
  kind := .ancestry
  rules := [
    rule "BaseSpeed" [("selector", .text "land"), ("value", .int 30)],
    rule "Sense" [("selector", .text "low-light-vision")],
    rule "ActorTraits" [("add", .texts ["elf", "humanoid"])]]

/-- The ancestries and heritages. -/
def ancestries : List RuleSource := [dwarf, rockDwarf, elf]

/-! ## Class features -/

/-- The predicate of what a rage brings. -/
def whileRaging : String × Data := ("predicate", .texts ["barbarian:rage"])

/-- The rage of a barbarian. -/
def rage : RuleSource where
  id := "class-feature.rage"
  name := "Rage"
  kind := .classFeature
  level := some 1
  rules := [
    rule "ToggleProperty"
      [("property", .text "flags.pf2e.barbarian.rage"), ("label", .text "Rage")],
    modifier "ac" (.int (-1)) [("label", .text "Rage"), whileRaging],
    modifier "strike-damage" (.int 2)
      [("type", .text "status"), ("label", .text "Rage"), whileRaging],
    rule "TempHP" [("value", .text "@actor.level"), ("label", .text "Rage"), whileRaging]]

/-- The dragon instinct of a barbarian. -/
def dragonInstinct : RuleSource where
  id := "class-feature.dragon-instinct"
  name := "Dragon Instinct"
  kind := .classFeature
  level := some 1
  rules := [
    rule "DamageDice"
      [("selector", .text "strike-damage"), ("diceNumber", .int 1), ("dieSize", .text "d6"),
        ("damageType", .text "fire"), whileRaging],
    rule "Resistance"
      [("type", .text "fire"), ("value", .text "@actor.level / 2"),
        ("predicate", .list [.object [("not", .text "self:effect:fatigued")]])]]

/-- The incredible movement of a monk. -/
def incredibleMovement : RuleSource where
  id := "class-feature.incredible-movement"
  name := "Incredible Movement"
  kind := .classFeature
  level := some 3
  rules := [
    modifier "land-speed" (.int 10)
      [("type", .text "status"), ("label", .text "Incredible Movement")]]

/-- The class features. -/
def classFeatures : List RuleSource := [rage, dragonInstinct, incredibleMovement]

/-! ## Spells and effects -/

/-- The enlarge spell. -/
def enlarge : RuleSource where
  id := "spell.enlarge"
  name := "Spell Effect: Enlarge"
  kind := .spell
  rules := [
    rule "CreatureSize" [("resizeBy", .int 1), ("maximumSize", .text "huge")],
    modifier "strike-damage" (.int 2) [("type", .text "status"), ("label", .text "Enlarge")]]

/-- The heroism spell. -/
def heroism : RuleSource where
  id := "spell.heroism"
  name := "Spell Effect: Heroism"
  kind := .spell
  rules := [
    modifier "all-checks" (.int 1) [("type", .text "status"), ("label", .text "Heroism")]]

/-- The courage of a bard's song. -/
def inspireCourage : RuleSource where
  id := "effect.inspire-courage"
  name := "Effect: Inspire Courage"
  kind := .effect
  rules := [
    modifier "strike-attack-roll" (.int 1)
      [("type", .text "status"), ("label", .text "Inspire Courage")]]

/-- The regeneration of a troll. -/
def trollRegeneration : RuleSource where
  id := "condition.troll-regeneration"
  name := "Troll Regeneration"
  kind := .effect
  rules := [
    rule "FastHealing"
      [("type", .text "regeneration"), ("value", .int 20),
        ("deactivatedBy", .texts ["acid", "fire"])],
    rule "Weakness" [("type", .text "fire"), ("value", .int 10)],
    rule "Immunity" [("type", .text "condition"), ("value", .texts ["paralyzed"])]]

/-- The spells and effects. -/
def effects : List RuleSource := [enlarge, heroism, inspireCourage, trollRegeneration]

/-! ## Equipment -/

/-- A longsword with a potency and a striking rune. -/
def strikingLongsword : RuleSource where
  id := "equipment.striking-longsword"
  name := "+1 Striking Longsword"
  kind := .equipment
  rules := [rule "WeaponPotency" [("value", .int 1)], rule "Striking" [("value", .int 1)]]

/-- A rune of flames. -/
def flamingRune : RuleSource where
  id := "equipment.flaming-rune"
  name := "Flaming Rune"
  kind := .equipment
  rules := [
    rule "DamageDice"
      [("selector", .text "strike-damage"), ("diceNumber", .int 1), ("dieSize", .text "d6"),
        ("damageType", .text "fire")],
    rule "DamageDice"
      [("selector", .text "strike-damage"), ("diceNumber", .int 1), ("dieSize", .text "d10"),
        ("damageType", .text "fire"), ("category", .text "persistent"),
        ("predicate", .texts ["critical-hit"])]]

/-- A ring against fire and cold. -/
def ringOfEnergyResistance : RuleSource where
  id := "equipment.ring-of-energy-resistance"
  name := "Ring of Energy Resistance"
  kind := .equipment
  rules := [rule "Resistance" [("type", .texts ["fire", "cold"]), ("value", .int 5)]]

/-- An armour of dragon scales. -/
def dragonplate : RuleSource where
  id := "equipment.dragonplate"
  name := "Dragonplate"
  kind := .equipment
  rules := [
    rule "Resistance"
      [("type", .text "all"), ("value", .int 3), ("exceptions", .texts ["adamantine"])],
    rule "Aura" [("radius", .int 10)]]

/-- The equipment. -/
def equipment : List RuleSource :=
  [strikingLongsword, flamingRune, ringOfEnergyResistance, dragonplate]

/-! ## Feats -/

/-- A fleet foot. -/
def fleet : RuleSource where
  id := "feat.fleet"
  name := "Fleet"
  level := some 1
  rules := [modifier "speed" (.int 5) [("type", .text "untyped"), ("label", .text "Fleet")]]

/-- A saving throw, or perception, to be expert in. -/
def cannyAcumen : RuleSource where
  id := "feat.canny-acumen"
  name := "Canny Acumen"
  level := some 1
  rules := [
    rule "ChoiceSet"
      [("flag", .text "cannyAcumen"), ("prompt", .text "Choose a saving throw or Perception"),
        ("choices", .list [choice "fortitude" "Fortitude", choice "reflex" "Reflex",
          choice "will" "Will", choice "perception" "Perception"])],
    rule "ActiveEffectLike"
      [("path", .text
          "system.proficiency.\x7bitem|flags.pf2e.rulesSelections.cannyAcumen\x7d.rank"),
        ("mode", .text "upgrade"), ("value", .int 2), ("phase", .text "beforeDerived")]]
where
  /-- An option of the choice. -/
  choice (value label : String) : Data :=
    .object [("value", .text value), ("label", .text label)]

/-- Hit points for every level. -/
def toughness : RuleSource where
  id := "feat.toughness"
  name := "Toughness"
  level := some 1
  rules := [modifier "max-hp" (.text "@actor.level") [("label", .text "Toughness")]]

/-- One more step away from death. -/
def diehard : RuleSource where
  id := "feat.diehard"
  name := "Diehard"
  level := some 1
  rules := [
    rule "ActiveEffectLike"
      [("path", .text "system.attributes.dying.max"), ("mode", .text "add"), ("value", .int 1)]]

/-- The feats. -/
def feats : List RuleSource := [fleet, cannyAcumen, toughness, diehard]

/-! ## The index -/

/-- The index of the bundled sources. -/
def bundle : SourceIndex := ⟨ancestries ++ classFeatures ++ effects ++ equipment ++ feats⟩

example : (bundle.sources.map (·.id)).Nodup := by decide

end RuleElements.Content
