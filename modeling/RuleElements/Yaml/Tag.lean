import RuleElements.Text.Class
import RuleElements.Yaml.Timestamp

/-!
# Tags

A tag says what a part of a document is. A plain scalar without one may be nothing, a truth value,
an integer, a double-precision number or a timestamp, and is a text otherwise. Integers are decimal,
octal after a zero, binary after `0b`, hexadecimal after `0x`, or groups of sixty with colons
between them. A double-precision number has a point, and a sign in its exponent.

Main definitions:
* `Tag.ofName`: the tag with a full name.
* `Tag.ofPlain`: the tag of a plain scalar.
-/

namespace RuleElements.Yaml

/-- What a part of a document is. -/
inductive Tag
  | null
  | boolean
  | integer
  | real
  | timestamp
  | text
  | sequence
  | mapping
  /-- the key under which a mapping takes in the entries of others -/
  | merge
  /-- the key of the default value of a mapping -/
  | default
  /-- a tag that nothing can be made of -/
  | foreign
  deriving DecidableEq, Repr, Inhabited

namespace Tag

/-- What the names of tags begin with. -/
def space : String := "tag:yaml.org,2002:"

/-- The name that leaves the choice of a tag to the text of a scalar. -/
def openName : String := "!"

/-- The names of tags without their beginning. -/
def words : List (String × Tag) :=
  [("null", null), ("bool", boolean), ("int", integer), ("float", real), ("timestamp", timestamp),
    ("str", text), ("seq", sequence), ("map", mapping), ("merge", merge), ("value", default)]

/-- The tag with a full name. -/
def ofName (name : String) : Tag :=
  ((words.find? fun (word, _) => space ++ word == name).map (·.2)).getD foreign

/-- The words for nothing. -/
def nullWords : List String := ["", "~", "null", "Null", "NULL"]

/-- The words for true and false. -/
def booleanWords : List String :=
  ["yes", "Yes", "YES", "true", "True", "TRUE", "on", "On", "ON",
    "no", "No", "NO", "false", "False", "FALSE", "off", "Off", "OFF"]

/-- The words for infinity, after a point. -/
def infinityWords : List String := ["inf", "Inf", "INF"]

/-- The words for what is not a number, after a point. -/
def nanWords : List String := ["nan", "NaN", "NAN"]

/-- Whether a character is a decimal digit or sets digits apart. -/
def isDigitOrGap (c : Char) : Bool := c.isDigit || c = '_'

/-- Whether all characters are digits in a base, or set digits apart. -/
def areDigits (base : Nat) (cs : List Char) : Bool :=
  cs.all fun c => c = '_' || (Text.hexDigitValue? c).any (· < base)

/-- Whether a group of sixty is one digit, or two of which the first is at most five. -/
def isSixty : List Char → Bool
  | [c] => c.isDigit
  | [c, d] => '0' ≤ c && c ≤ '5' && d.isDigit
  | _ => false

/-- The characters without one sign at their head. -/
def dropSign : List Char → List Char
  | '+' :: cs => cs
  | '-' :: cs => cs
  | cs => cs

/-- Whether characters without a sign are an integer. -/
def isUnsigned : List Char → Bool
  | ['0'] => true
  | '0' :: 'b' :: digits => !digits.isEmpty && areDigits 2 digits
  | '0' :: 'x' :: digits => !digits.isEmpty && areDigits 16 digits
  | '0' :: digits => areDigits 8 digits
  | cs =>
    match cs.splitOn ':' with
    | [] => false
    | first :: groups =>
      first.head?.any Char.isDigit && first.all isDigitOrGap && groups.all isSixty

/-- Whether a plain scalar is an integer. -/
def isInteger (cs : List Char) : Bool := isUnsigned (dropSign cs)

/-- Whether characters are an exponent with a sign, or nothing. -/
def isExponent : List Char → Bool
  | [] => true
  | e :: sign :: power =>
    (e = 'e' || e = 'E') && (sign = '+' || sign = '-') && !power.isEmpty && power.all Char.isDigit
  | _ => false

/-- Whether characters without a sign are digits, a point, digits, and an exponent. The first digit
stands before the point, or after it if there was no sign. -/
def isFraction (signed : Bool) (cs : List Char) : Bool :=
  let whole := cs.takeWhile isDigitOrGap
  match cs.drop whole.length with
  | '.' :: rest =>
    let digits := rest.takeWhile isDigitOrGap
    let leads :=
      if whole.isEmpty then !signed && digits.head?.any Char.isDigit
      else whole.head?.any Char.isDigit
    leads && isExponent (rest.drop digits.length)
  | _ => false

/-- Whether characters without a sign are groups of sixty of which the last one has a point. -/
def areSixties (cs : List Char) : Bool :=
  let whole := cs.takeWhile (· ≠ '.')
  match cs.drop whole.length with
  | '.' :: rest =>
    match whole.splitOn ':' with
    | first :: group :: groups =>
      first.head?.any Char.isDigit && first.all isDigitOrGap && (group :: groups).all isSixty &&
        rest.all isDigitOrGap
    | _ => false
  | _ => false

/-- Whether a plain scalar is a double-precision number. -/
def isReal (cs : List Char) : Bool :=
  let rest := dropSign cs
  let signed : Bool := rest.length < cs.length
  match rest with
  | '.' :: word =>
    infinityWords.contains (String.ofList word) ||
      (!signed && nanWords.contains (String.ofList word)) || isFraction signed rest
  | _ => isFraction signed rest || areSixties rest

/-- The tag of a plain scalar. -/
def ofPlain (s : String) : Tag :=
  if nullWords.contains s then null
  else if booleanWords.contains s then boolean
  else if s = "<<" then merge
  else if s = "=" then default
  else if isReal s.toList then real
  else if isInteger s.toList then integer
  else if Timestamp.isPlain s.toList then timestamp
  else text

end Tag

example : Tag.ofPlain "12:30" = .integer := by decide +kernel

example : Tag.ofPlain "1e3" = .text := by decide +kernel

example : Tag.ofPlain "2001-12-14" = .timestamp := by decide +kernel

end RuleElements.Yaml
