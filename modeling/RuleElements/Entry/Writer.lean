import RuleElements.Data.Finite
import RuleElements.Element.Writer
import RuleElements.Entry.Basic

/-!
# Writing entries

Every entry is written as an object with all its fields, missing ones as null.
-/

namespace RuleElements

/-- The predicate of an entry as a field. -/
def predicateField (p : Option Predicate) : String × Data :=
  ("predicate", .ofOption Predicate.toData p)

/-- A modifier as raw data. -/
def Modifier.toData (m : Modifier) : Data :=
  .object [("label", .text m.label), ("source", .text m.source), ("value", m.value.toData),
    ("type", .ofWord m.type), ("selector", .text m.selector), predicateField m.predicate,
    ("enabled", .boolean m.enabled), ("always_active", .boolean m.alwaysActive),
    ("description", .ofOption .text m.description)]

/-- Damage dice as raw data. -/
def DamageDice.toData (d : DamageDice) : Data :=
  .object [("selector", .text d.selector), ("dice_number", .int d.diceNumber),
    ("die_size", .text d.dieSize), ("damage_type", .text d.damageType),
    ("category", .ofOption .ofWord d.category), ("override", .boolean d.override),
    ("source", .text d.source), predicateField d.predicate, ("enabled", .boolean d.enabled)]

/-- A speed as raw data. -/
def Speed.toData (s : Speed) : Data :=
  .object [("type", .text s.type), ("value", s.value.toData), ("source", .text s.source),
    predicateField s.predicate]

/-- A sense as raw data. -/
def Sense.toData (s : Sense) : Data :=
  .object [("type", .text s.type), ("range", .ofOption .int s.range), ("acuity", .ofWord s.acuity),
    ("source", .text s.source), ("label", .text s.label), predicateField s.predicate,
    ("enabled", .boolean s.enabled)]

/-- A granted item as raw data, with the finite part of what it carries. -/
def GrantedItem.toData (g : GrantedItem) : Data :=
  .object [("uuid", .ofOption .text g.uuid), ("item", (Data.ofOption .object g.item).finite),
    ("source", .text g.source), ("allow_duplicate", .boolean g.allowDuplicate),
    predicateField g.predicate]

/-- A choice as raw data. -/
def ChoicePrompt.toData (p : ChoicePrompt) : Data :=
  .object [("flag", .text p.flag), ("prompt", .text p.prompt),
    ("choices", .list (p.choices.map ChoiceOption.toData)), ("source", .text p.source),
    ("selection_count", .int p.selectionCount), ("adjust_name", .boolean p.adjustName),
    ("selection", .ofOption Names.toData p.selection), predicateField p.predicate]

/-- A property change as raw data. -/
def PropertyChange.toData (c : PropertyChange) : Data :=
  .object [("path", .text c.path), ("mode", .ofWord c.mode), ("value", c.value.toData),
    ("phase", .ofWord c.phase), ("priority", .int c.priority), ("source", .text c.source),
    predicateField c.predicate]

/-- A roll option as raw data. -/
def RollOption.toData (r : RollOption) : Data :=
  .object [("option", .text r.option), ("domain", .text r.domain),
    ("toggleable", .boolean r.toggleable), ("enabled", .boolean r.enabled),
    ("label", .ofOption .text r.label), ("source", .text r.source), predicateField r.predicate]

/-- A switched property as raw data. -/
def ToggleProperty.toData (t : ToggleProperty) : Data :=
  .object [("property", .text t.property), ("label", .text t.label),
    ("enabled", .boolean t.enabled), ("source", .text t.source), predicateField t.predicate,
    ("roll_option", .ofOption .text t.rollOption), ("description", .ofOption .text t.description)]

/-- A potency rune as raw data. -/
def WeaponPotency.toData (w : WeaponPotency) : Data :=
  .object [("potency", .int w.potency), ("attack_modifier", w.attackModifier.toData),
    ("damage_modifier", w.damageModifier.toData), ("source", .text w.source),
    predicateField w.predicate]

/-- A striking rune as raw data. -/
def Striking.toData (s : Striking) : Data :=
  .object [("extra_dice", .int s.extraDice), ("selector", .text s.selector),
    ("source", .text s.source), predicateField s.predicate]

/-- Temporary hit points as raw data. -/
def TempHP.toData (t : TempHP) : Data :=
  .object [("value", t.value.toData), ("source", .text t.source), ("events", .texts t.events),
    predicateField t.predicate]

/-- Recovery over time as raw data. -/
def FastHealing.toData (f : FastHealing) : Data :=
  .object [("value", f.value.toData), ("type", .ofWord f.type), ("source", .text f.source),
    ("deactivated_by", .texts f.deactivatedBy), predicateField f.predicate,
    ("active", .boolean f.active)]

/-- A resistance as raw data. -/
def Resistance.toData (r : Resistance) : Data :=
  .object [("types", .texts r.types), ("value", r.value.toData),
    ("exceptions", .texts r.exceptions), ("source", .text r.source), predicateField r.predicate]

/-- A weakness as raw data. -/
def Weakness.toData (w : Weakness) : Data :=
  .object [("types", .texts w.types), ("value", w.value.toData), ("source", .text w.source),
    predicateField w.predicate]

/-- An immunity as raw data. -/
def Immunity.toData (i : Immunity) : Data :=
  .object [("type", .ofWord i.type), ("values", .texts i.values), ("source", .text i.source),
    predicateField i.predicate]

/-- A change of size as raw data. -/
def SizeChange.toData (c : SizeChange) : Data :=
  .object [("size", .ofOption .ofWord c.size), ("resize_by", .int c.resizeBy),
    ("maximum_size", .ofOption .ofWord c.maximumSize),
    ("minimum_size", .ofOption .ofWord c.minimumSize), ("source", .text c.source),
    predicateField c.predicate]

/-- A change of traits as raw data. -/
def TraitChange.toData (c : TraitChange) : Data :=
  .object [("add", .texts c.add), ("remove", .texts c.remove), ("source", .text c.source),
    predicateField c.predicate]

end RuleElements
