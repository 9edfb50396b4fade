import RuleElements.Data.Basic
import RuleElements.Numeric.Decimal
import RuleElements.Text.Casing
import RuleElements.Yaml.Tag

/-!
# What scalars mean

The text of a scalar has a value of the kind that its tag says. Underscores in numbers do not count.

Main definitions:
* `Meaning.ofScalar`: the value of a scalar with a tag.
-/

namespace RuleElements.Yaml.Meaning

/-- The words for true. -/
def trueWords : List String := ["yes", "true", "on"]

/-- The words for false. -/
def falseWords : List String := ["no", "false", "off"]

/-- A truth value, in letters of either case. -/
def boolean (s : String) : Except ScalarFault Bool :=
  let word := Text.lower s
  if trueWords.contains word then .ok true
  else if falseWords.contains word then .ok false
  else .error (.notBoolean word)

/-- The value of a digit in a base: a decimal digit of any script, or a letter. -/
def digitValue? (base : Nat) (c : Char) : Option Nat :=
  ((Text.decimalValue? c).or (Text.hexDigitValue? c)).filter (· < base)

/-- The letters that may stand between a zero and the digits in a base. -/
def baseLetters : Nat → List Char
  | 2 => ['b', 'B']
  | 8 => ['o', 'O']
  | 16 => ['x', 'X']
  | _ => []

/-- The characters without the mark of a base. -/
def dropBase (base : Nat) : List Char → List Char
  | '0' :: c :: cs => if (baseLetters base).contains c then cs else '0' :: c :: cs
  | cs => cs

/-- The integer that characters spell in a base, with an optional sign and spaces around it. Only
decimal digits can be too many. -/
def integerIn (base : Nat) (cs : List Char) : Except ScalarFault Int :=
  let natural? (cs : List Char) : Option Nat :=
    match (dropBase base cs).mapM (digitValue? base) with
    | some (digit :: digits) => some ((digit :: digits).foldl (fun n digit => n * base + digit) 0)
    | _ => none
  match Text.readSigned? natural? (Text.trimWhere Text.isSpace cs) with
  | some n =>
    let count := Text.digitCount cs
    if base = 10 && Text.digitLimit < count then .error (.tooManyDigits count) else .ok n
  | none => .error (.notInteger base (String.ofList cs))

/-- The sum of groups of sixty. -/
def sumIntegers (groups : List Int) : Int := groups.foldl (fun sum group => sum * 60 + group) 0

/-- An integer without its sign, in the base that its first characters tell. -/
def unsignedInteger : List Char → Except ScalarFault Int
  | [] => .error .noDigits
  | '0' :: 'b' :: digits => integerIn 2 digits
  | '0' :: 'x' :: digits => integerIn 16 digits
  | '0' :: digits => if digits.isEmpty then .ok 0 else integerIn 8 ('0' :: digits)
  | cs =>
    if cs.contains ':' then ((cs.splitOn ':').mapM (integerIn 10)).map sumIntegers
    else integerIn 10 cs

/-- An integer. -/
def integer (s : String) : Except ScalarFault Int :=
  let cs := s.toList.filter (· ≠ '_')
  let negative := cs.head? = some '-'
  (unsignedInteger (Tag.dropSign cs)).map fun n => if negative then -n else n

/-- The double-precision number that characters spell. -/
def realIn (cs : List Char) : Except ScalarFault Binary64 :=
  match Binary64.ofChars? Text.decimalValue? (Text.trimWhere Text.isSpace cs) with
  | some x => .ok x
  | none => .error (.notReal (String.ofList cs))

/-- The sum of groups of sixty, from the last one on. -/
def sumReals (groups : List Binary64) : Binary64 :=
  (groups.reverse.zipIdx.map fun (x, place) => x * .ofInt (Nat.pow 60 place)).foldl (· + ·)
    (.zero false)

/-- A double-precision number without its sign. -/
def unsignedReal (cs : List Char) : Except ScalarFault Binary64 :=
  if String.ofList cs = ".inf" then .ok (.infinite false)
  else if String.ofList cs = ".nan" then .ok .nan
  else if cs.contains ':' then ((cs.splitOn ':').mapM realIn).map sumReals
  else realIn cs

/-- A double-precision number. -/
def real (s : String) : Except ScalarFault Binary64 :=
  let cs := (Text.lower (String.ofList (s.toList.filter (· ≠ '_')))).toList
  if cs.isEmpty then .error .noDigits
  else
    let negative := cs.head? = some '-'
    (unsignedReal (Tag.dropSign cs)).map fun x => if negative then -x else x

/-- A moment. -/
def moment (s : String) : Except ScalarFault Moment :=
  match Timestamp.scan? s.toList with
  | some t => t.toMoment
  | none => .error .notTimestamp

/-- The value of a scalar with a tag; nothing if the tag is for none. -/
def ofScalar (tag : Tag) (s : String) : Except Failure Data :=
  match tag with
  | .null => .ok .null
  | .boolean => ((boolean s).map Data.boolean).mapError .scalar
  | .integer => ((integer s).map Data.int).mapError .scalar
  | .real => ((real s).map fun x => .number (.real x)).mapError .scalar
  | .timestamp => ((moment s).map Data.moment).mapError .scalar
  | .text => .ok (.text s)
  | _ => .error .malformed

/-- The value of a plain scalar. -/
def ofPlain (s : String) : Except Failure Data := ofScalar (Tag.ofPlain s) s

example : (integer "12:30").toOption = some 750 := by decide +kernel

example : (integer "-0x1F").toOption = some (-31) := by decide +kernel

example : (integer "0b_").toOption = none := by decide +kernel

end RuleElements.Yaml.Meaning
