import RuleElements.Entry.Basic
import RuleElements.Fault
import RuleElements.Stacking.Selection
import RuleElements.Text.Casing

/-!
# Speeds, senses, size and traits

What a character is: how fast it moves, what it perceives, the room that it takes up, and the words
that describe it.

Main definitions:
* `Speed.highest`, `Speed.byType`: the highest of the speeds that apply.
* `Sense.active`, `Sense.consolidate`: the senses that apply, and the best one of each type.
* `Size.resize`, `Size.after`: a size after steps, and after changes.
* `Size.afterWord`: the same from a word, which may be none of the sizes.
* `Trait.final`: the traits after changes.
-/

namespace RuleElements

/-! ## Speeds

Speeds do not stack: of the speeds that apply the highest counts.
-/

namespace Speed

/-- The highest speed that applies, of one type or of all; zero if there is none. -/
def highest (speeds : List Speed) (ctx : Option Context) (type : Option String) : Number :=
  let values := speeds.filter fun s => Gated.appliesIn ctx s && type.all (s.type == ·)
  (Number.maximum? (values.map (·.value))).getD (.integer 0)

/-- The speeds by type with a further one taken in. -/
def improve (known : List (String × Number)) (s : Speed) : List (String × Number) :=
  match Fields.get? known s.type with
  | none => Fields.set known s.type s.value
  | some value => if value.lt s.value then Fields.set known s.type s.value else known

/-- The highest speed of each type that applies, in the order of first occurrence. -/
def byType (speeds : List Speed) (ctx : Option Context) : List (String × Number) :=
  (speeds.filter (Gated.appliesIn ctx)).foldl improve []

/-- Speeds in words: the one on land first and without its name. -/
def describe (speeds : List (String × Number)) : String :=
  let onLand := speeds.filter (·.1 == "land")
  let others := speeds.filter (·.1 != "land")
  ", ".intercalate
    (onLand.map (fun s => s.2.text ++ " feet") ++
      others.map fun s => s.1 ++ " " ++ s.2.text ++ " feet")

end Speed

/-! ## Senses

Of several senses of one type the one with the longer range counts, and otherwise the sharper one.
-/

namespace Sense

/-- The senses that are switched on and apply. -/
def active (senses : List Sense) (ctx : Option Context) : List Sense :=
  senses.filter fun s => s.enabled && Gated.appliesIn ctx s

/-- Whether a sense reaches farther than another one. -/
def outranges (s current : Sense) : Bool :=
  match s.range, current.range with
  | none, _ => false
  | some _, none => true
  | some a, some b => b < a

/-- Whether a sense takes the place of another one of its type. -/
def improves (s current : Sense) : Bool :=
  outranges s current || current.acuity.rank < s.acuity.rank

/-- The best senses with a further one taken in. -/
def keepBest (best : List (String × Sense)) (s : Sense) : List (String × Sense) :=
  match Fields.get? best s.type with
  | none => Fields.set best s.type s
  | some current => if s.improves current then Fields.set best s.type s else best

/-- One sense of each type, in the order of first occurrence. -/
def consolidate (senses : List Sense) : List Sense := (senses.foldl keepBest []).map (·.2)

/-- Whether a sense of a type is switched on. -/
def isPresent (senses : List Sense) (type : String) : Bool :=
  senses.any fun s => s.enabled && s.type == type

/-- The longest range of the senses of a type that are switched on. -/
def longestRange (senses : List Sense) (type : String) : Option Int :=
  ((senses.filter fun s => s.enabled && s.type == type).filterMap (·.range)).max?

end Sense

/-! ## Size

Changes of size are made in order: a change to a size, or a number of steps up or down that is then
kept within the bounds of the change.
-/

namespace Size

/-- The size some steps up or down, at most at the ends of the order. -/
def resize (s : Size) (steps : Int) : Size := ofRank (s.rank + steps)

/-- The smaller of a size and an upper bound, if there is one. -/
def atMost (s : Size) (bound : Option Size) : Size :=
  match bound with
  | none => s
  | some b => if b.rank < s.rank then b else s

/-- The larger of a size and a lower bound, if there is one. -/
def atLeast (s : Size) (bound : Option Size) : Size :=
  match bound with
  | none => s
  | some b => if s.rank < b.rank then b else s

/-- A size after a change. -/
def change (s : Size) (c : SizeChange) : Size :=
  match c.size with
  | some size => size
  | none => ((s.resize c.resizeBy).atMost c.maximumSize).atLeast c.minimumSize

/-- A size after the changes that apply. -/
def after (base : Size) (changes : List SizeChange) (ctx : Option Context) : Size :=
  (changes.filter (Gated.appliesIn ctx)).foldl change base

/-- The side of the space that a creature takes up, in feet. -/
def space : Size → Number
  | .tiny => .real (.ofDecimal false 25 (-1))
  | .small => .integer 5
  | .medium => .integer 5
  | .large => .integer 10
  | .huge => .integer 15
  | .gargantuan => .integer 20

/-- The reach of a creature, in feet. -/
def reach : Size → Int
  | .tiny => 5
  | .small => 5
  | .medium => 5
  | .large => 10
  | .huge => 15
  | .gargantuan => 20

/-- Whether a change compares the size that it changes. -/
def compares (c : SizeChange) : Bool :=
  c.resizeBy != 0 || c.maximumSize.isSome || c.minimumSize.isSome

/-- A word that is none of the sizes after changes: the first change to a size makes it one, and a
change that compares it fails before that. -/
def afterUnknown (word : String) : List SizeChange → Except Fault Size
  | [] => .error (.missingKey word)
  | c :: rest =>
    match c.size with
    | some size => .ok (rest.foldl change size)
    | none => if compares c then .error .notASize else afterUnknown word rest

/-- A size, given by its word, after the changes that apply. -/
def afterWord (word : String) (changes : List SizeChange) (ctx : Option Context) :
    Except Fault Size :=
  match Worded.ofWord? word with
  | some (base : Size) => .ok (base.after changes ctx)
  | none => afterUnknown word (changes.filter (Gated.appliesIn ctx))

end Size

/-! ## Traits

Traits are kept in lowercase. Changes of traits are made in order, and each takes away before it
adds.
-/

namespace Trait

/-- Traits without the given ones. -/
def takeAway (traits removed : List String) : List String :=
  traits.filter (!(removed.map Text.lower).contains ·)

/-- Traits after a change. -/
def change (traits : List String) (c : TraitChange) : List String :=
  takeAway traits c.remove ++ c.add.map Text.lower

/-- The traits after the changes that apply, each once and in order. -/
def final (base : List String) (changes : List TraitChange) (ctx : Option Context) : List String :=
  sortedTexts ((changes.filter (Gated.appliesIn ctx)).foldl change (base.map Text.lower))

/-- Whether a trait is among others, whatever the case of the letters. -/
def isAmong (traits : List String) (trait : String) : Bool :=
  (traits.map Text.lower).contains (Text.lower trait)

/-- Whether one of the traits asked for is there. -/
def anyAmong (traits wanted : List String) : Bool := wanted.any (isAmong traits)

/-- Whether all traits asked for are there. -/
def allAmong (traits wanted : List String) : Bool := wanted.all (isAmong traits)

/-- The traits of alignment. -/
def alignments : List String := ["lawful", "chaotic", "good", "evil", "neutral"]

/-- The traits of creature types. -/
def creatureTypes : List String :=
  ["aberration", "animal", "astral", "beast", "celestial", "construct", "dragon", "elemental",
    "ethereal", "fey", "fiend", "fungus", "humanoid", "monitor", "ooze", "plant", "spirit",
    "undead"]

/-- The category of a trait. -/
def category (trait : String) : Option String :=
  let t := Text.lower trait
  if alignments.contains t then some "alignment"
  else if (Worded.words Size).contains t then some "size"
  else if creatureTypes.contains t then some "creature-type"
  else none

end Trait

end RuleElements
