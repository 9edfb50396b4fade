import RuleElements.Data.Basic
import RuleElements.Schema.Issue

/-!
# Readers

How a raw value is read as a text, a number, a truth value, one of a few words, a list or an object
with fields. Readers are lenient where the intention is plain: an integer may be written as a text
or as a number without a fraction, a truth value as a word or as zero or one.

Main definitions:
* `Data.asText`, `Data.asInteger`, `Data.asBoolean`, `Data.asNumber`, `Data.asWord`, `Data.asList`,
  `Data.asObject`.
* `Fields.required`, `Fields.optional`, `Fields.defaulted`: the three ways in which a field is read.

Out of scope: a bound on the digits of an integer that is written as a text.
-/

namespace RuleElements

/-- Types whose values are written as fixed words. -/
class Worded (α : Type) where
  all : List α
  word : α → String

/-- The value with the given word. -/
def Worded.ofWord? {α : Type} [Worded α] (s : String) : Option α :=
  (Worded.all : List α).find? fun a => Worded.word a == s

/-- The words of a type. -/
def Worded.words (α : Type) [Worded α] : List String := (Worded.all : List α).map Worded.word

/-- The step of a path that leads to the value under a key; truth values count as numbers there. -/
def Key.step (key : Key) : String :=
  match key with
  | .text s => s
  | .boolean b => if b then "1" else "0"
  | other => Data.displayKey other

/-- The name that a key must be. -/
def Key.read (key : Key) : Checked String :=
  match key with
  | .text s => .valid s
  | other => .invalid [⟨[other.step, "[key]"], .notText⟩]

namespace Data

variable {α : Type}

/-- Texts are read from texts only. -/
def asText : Data → Checked String
  | .text s => .valid s
  | _ => .fail .notText

/-- The bound on the absolute value of double-precision numbers that are read as integers: two to
the power of 63. -/
def integerBound : Int := 9223372036854775808

/-- An integer from a number without a fraction. -/
def integerOfReal (x : Binary64) : Checked Int :=
  match x.floor? with
  | none => .fail .notFinite
  | some n =>
    if !x.isIntegral then .fail .fractional
    else if n.natAbs < integerBound then .valid n
    else .fail .integerTooLarge

/-- Integers are read from integers, truth values, numbers without a fraction and texts. -/
def asInteger : Data → Checked Int
  | .number (.integer n) => .valid n
  | .number (.real x) => integerOfReal x
  | .boolean b => .valid (if b then 1 else 0)
  | .text s =>
    match Text.readPlainInteger? s with
    | some n => .valid n
    | none => .fail .unreadableInteger
  | _ => .fail .notInteger

/-- The words for true. -/
def trueWords : List String := ["1", "t", "y", "on", "yes", "true"]

/-- The words for false. -/
def falseWords : List String := ["0", "f", "n", "no", "off", "false"]

/-- Truth values are read from truth values, from zero and one, and from words in either case. -/
def asBoolean : Data → Checked Bool
  | .boolean b => .valid b
  | .text s =>
    let word := String.ofList (s.toList.map Char.toLower)
    if trueWords.contains word then .valid true
    else if falseWords.contains word then .valid false
    else .fail .unreadableBoolean
  | .number (.integer n) =>
    if n = 0 then .valid false
    else if n = 1 then .valid true
    else if -integerBound ≤ n && n < integerBound then .fail .unreadableBoolean
    else .fail .notBoolean
  | .number (.real x) =>
    match integerOfReal x with
    | .valid n =>
      if n = 0 then .valid false else if n = 1 then .valid true else .fail .unreadableBoolean
    | .invalid _ => .fail .notBoolean
  | _ => .fail .notBoolean

/-- Numbers are read from numbers, truth values and texts; an integer goes before a
double-precision number. -/
def asNumber : Data → Checked Number
  | .number n => .valid n
  | .boolean b => .valid (.integer (if b then 1 else 0))
  | .text s =>
    match Text.readPlainInteger? s, Binary64.read? s with
    | some n, _ => .valid (.integer n)
    | none, some x => .valid (.real x)
    | none, none => .invalid [⟨["int"], .unreadableInteger⟩, ⟨["float"], .unreadableNumber⟩]
  | _ => .invalid [⟨["int"], .notInteger⟩, ⟨["float"], .notNumber⟩]

/-- A value of a type with fixed words is read from its word. -/
def asWord [Worded α] : Data → Checked α
  | .text s =>
    match Worded.ofWord? s with
    | some a => .valid a
    | none => .fail (.notOneOf (Worded.words α))
  | _ => .fail (.notOneOf (Worded.words α))

/-- The items of a list from the place `index` on. -/
def readItems (read : Data → Checked α) : Nat → List Data → Checked (List α)
  | _, [] => .valid []
  | index, item :: rest =>
    List.cons <$> (read item).under (toString index) <*> readItems read (index + 1) rest

/-- A list, item by item. -/
def asList (read : Data → Checked α) : Data → Checked (List α)
  | .list items => readItems read 0 items
  | _ => .fail .notList

/-- A list of texts. -/
def asTexts : Data → Checked (List String) := asList asText

/-- The values of an object, field by field. -/
def readValues (read : Data → Checked α) : List (String × Data) → Checked (List (String × α))
  | [] => .valid []
  | (name, value) :: rest =>
    (fun a others => (name, a) :: others) <$> (read value).under name <*> readValues read rest

/-- The entries of a mapping, key by key; each key must be a text. -/
def readEntries (read : Data → Checked α) : List (Key × Data) → Checked (List (String × α))
  | [] => .valid []
  | (key, value) :: rest =>
    (fun name a others => (name, a) :: others)
      <$> key.read <*> (read value).under key.step <*> readEntries read rest

/-- An object, value by value. -/
def asMap (read : Data → Checked α) : Data → Checked (List (String × α))
  | .object fields => readValues read fields
  | .mapping entries => readEntries read entries
  | _ => .fail .notDictionary

/-- An object as it is. -/
def asObject : Data → Checked (List (String × Data))
  | .object fields => .valid fields
  | .mapping entries => readEntries .valid entries
  | _ => .fail .notDictionary

/-- The description of a thing called `name`, from the fields of an object. -/
def asModel (name : String) (read : List (String × Data) → Checked α) (d : Data) : Checked α :=
  match d.fields? with
  | some fields => read fields
  | none => .fail (.notModel name)

end Data

namespace Fields

variable {α : Type}

/-- A field that must be there. -/
def required (fields : List (String × Data)) (name : String) (read : Data → Checked α) :
    Checked α :=
  match get? fields name with
  | none => .invalid [⟨[name], .missing⟩]
  | some value => (read value).under name

/-- A field that may be missing or null. -/
def optional (fields : List (String × Data)) (name : String) (read : Data → Checked α) :
    Checked (Option α) :=
  match get? fields name with
  | none => .valid none
  | some .null => .valid none
  | some value => ((read value).map some).under name

/-- A field with a value to use if it is missing. -/
def defaulted (fields : List (String × Data)) (name : String) (default : α)
    (read : Data → Checked α) : Checked α :=
  match get? fields name with
  | none => .valid default
  | some value => (read value).under name

end Fields

end RuleElements
