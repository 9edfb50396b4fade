import RuleElements.Entry.Basic
import RuleElements.Text.Casing
import RuleElements.Text.Split

/-!
# Labels

The names under which entries are shown when a rule element gives none.
-/

namespace RuleElements.Label

/-- The words of a slug, each with a capital at its head. -/
def ofSlug (slug : String) : String :=
  " ".intercalate
    ((slug.toList.splitOn '-').map fun word => String.ofList (Text.capitalize word))

/-- A signed value and the words of a selector. -/
def ofModifier (selector : String) (value : Number) : String :=
  value.signedText ++ " " ++ ofSlug selector

/-- How sharp a sense is by nature. -/
def defaultAcuity : String → Acuity
  | "darkvision" => .precise
  | "low-light-vision" => .precise
  | "see-invisibility" => .precise
  | "thoughtsense" => .vague
  | "lifesense" => .vague
  | _ => .imprecise

/-- The words of a sense, its range, and how sharp it is unless it is precise. -/
def ofSense (type : String) (range : Option Int) (acuity : Acuity) : String :=
  ofSlug type ++
    (match range with
      | none => ""
      | some feet => " " ++ toString feet ++ " feet") ++
    (if acuity = .precise then "" else " (" ++ Worded.word acuity ++ ")")

/-- The flag of a choice without one of its own: the source in lowercase, with dashes for blanks. -/
def choiceFlag (source : String) : String :=
  "choice-" ++ String.ofList (Text.collapseBlanks '-' (Text.lower source).toList)

/-- The names of selectors that are not simply their words. -/
def selectorNames : List (String × String) :=
  [("ac", "AC"), ("speed", "Speed"), ("land-speed", "Speed"), ("fly-speed", "Fly Speed"),
    ("swim-speed", "Swim Speed"), ("climb-speed", "Climb Speed"), ("burrow-speed", "Burrow Speed"),
    ("fortitude", "Fortitude Save"), ("reflex", "Reflex Save"), ("will", "Will Save"),
    ("perception", "Perception"), ("initiative", "Initiative"), ("attack", "Attack Rolls"),
    ("damage", "Damage"), ("strike-attack-roll", "Strike Attack Rolls"),
    ("strike-damage", "Strike Damage"), ("spell-attack", "Spell Attack"), ("spell-dc", "Spell DC"),
    ("hp", "Hit Points"), ("max-hp", "Max Hit Points"), ("temp-hp", "Temporary HP"),
    ("all-checks", "All Checks"), ("all-checks-dcs", "All Checks and DCs"),
    ("all-saves", "All Saves"), ("dexterity-based", "Dexterity-based Checks"),
    ("strength-based", "Strength-based Checks"),
    ("constitution-based", "Constitution-based Checks"),
    ("intelligence-based", "Intelligence-based Checks"), ("wisdom-based", "Wisdom-based Checks"),
    ("charisma-based", "Charisma-based Checks")]

/-- The name of a selector; a skill goes by the words after `skill:`. -/
def ofSelector (selector : String) : String :=
  match Fields.get? selectorNames selector with
  | some name => name
  | none =>
    let start := if Text.startsWith selector "skill:" then 6 else 0
    Text.title (Text.replaceChar (String.ofList (selector.toList.drop start)) '-' ' ')

end RuleElements.Label
