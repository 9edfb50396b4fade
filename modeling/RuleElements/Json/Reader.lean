import RuleElements.Data.Basic

/-!
# Reading JSON

A total reader of JSON texts. Beyond the standard it takes `NaN`, `Infinity` and `-Infinity`. A
number with a fraction or an exponent is a double-precision number, any other an integer, and
refused if it has more digits than integers in texts may have; of several values under one name the
last one counts.

Main definitions:
* `Json.read?`: the value that a text denotes.

The readers return what is left of the characters. Those of values take a bound on the depth of
nesting, which the length of the text always satisfies.
-/

namespace RuleElements.Json

/-- The blanks of the format. -/
def isSpace (c : Char) : Bool := c = ' ' || c = '\t' || c = '\n' || c = '\r'

/-- The characters after leading blanks. -/
def skipSpace (cs : List Char) : List Char := cs.dropWhile isSpace

/-- The number that four hexadecimal digits spell. -/
def hexUnit? (a b c d : Char) : Option Nat :=
  ([a, b, c, d].mapM Text.hexDigitValue?).map fun values => values.foldl (fun n d => n * 16 + d) 0

/-- The character that an escape letter stands for. -/
def escaped? : Char → Option Char
  | '"' => some '"'
  | '\\' => some '\\'
  | '/' => some '/'
  | 'b' => some '\x08'
  | 'f' => some '\x0c'
  | 'n' => some '\n'
  | 'r' => some '\r'
  | 't' => some '\t'
  | _ => none

/-- Whether a code unit is the first half of a pair. -/
def isHighHalf (n : Nat) : Bool := 0xD800 ≤ n && n < 0xDC00

/-- Whether a code unit is the second half of a pair. -/
def isLowHalf (n : Nat) : Bool := 0xDC00 ≤ n && n < 0xE000

/-- The rest of a text after its opening quote; `read` holds the characters so far backwards. Halves
of a pair are joined, and refused alone. -/
def readTextFrom (read : List Char) : List Char → Option (List Char × List Char)
  | [] => none
  | '"' :: rest => some (read.reverse, rest)
  | '\\' :: 'u' :: a :: b :: c :: d :: rest =>
    match hexUnit? a b c d with
    | none => none
    | some unit =>
      if isHighHalf unit then
        match rest with
        | '\\' :: 'u' :: e :: f :: g :: h :: rest =>
          match hexUnit? e f g h with
          | none => none
          | some low =>
            if isLowHalf low then
              readTextFrom
                (Char.ofNat (0x10000 + (unit - 0xD800) * 0x400 + (low - 0xDC00)) :: read) rest
            else none
        | _ => none
      else if isLowHalf unit then none
      else readTextFrom (Char.ofNat unit :: read) rest
  | '\\' :: c :: rest =>
    match escaped? c with
    | none => none
    | some c => readTextFrom (c :: read) rest
  | c :: rest => if c.toNat < 0x20 then none else readTextFrom (c :: read) rest

/-- Whether the digits before the point are as they must be: at least one, and no zero before
others. -/
def isWhole : List Nat → Bool
  | [] => false
  | [_] => true
  | 0 :: _ => false
  | _ => true

/-- A number without its sign. -/
def readNumber (negative : Bool) (cs : List Char) : Option (Data × List Char) :=
  let (d, rest) := Decimal.scan Text.asciiDigitValue? cs
  if !isWhole d.whole || d.fraction == some [] then none
  else if d.fraction.isNone && d.exponent.isNone then
    if Text.digitLimit < d.whole.length then none else
    let n : Int := Decimal.ofDigits d.whole
    some (.int (if negative then -n else n), rest)
  else some (.number (.real (d.toBinary64 negative)), rest)

/-- A value if the characters begin with its word. -/
def readWord (word : String) (value : Data) (cs : List Char) : Option (Data × List Char) :=
  if word.toList.isPrefixOf cs then some (value, cs.drop word.length) else none

/-- A value that has no parts, from its first character on. -/
def readScalar (cs : List Char) : Option (Data × List Char) :=
  match cs with
  | '"' :: rest => (readTextFrom [] rest).map fun (s, rest) => (.text (String.ofList s), rest)
  | 't' :: _ => readWord "true" (.boolean true) cs
  | 'f' :: _ => readWord "false" (.boolean false) cs
  | 'n' :: _ => readWord "null" .null cs
  | 'N' :: _ => readWord "NaN" (.number (.real .nan)) cs
  | 'I' :: _ => readWord "Infinity" (.number (.real (.infinite false))) cs
  | '-' :: 'I' :: _ => readWord "-Infinity" (.number (.real (.infinite true))) cs
  | '-' :: rest => readNumber true rest
  | _ => readNumber false cs

mutual

/-- A value, blanks before it not counted. -/
def readValue : Nat → List Char → Option (Data × List Char)
  | 0, _ => none
  | depth + 1, cs =>
    match skipSpace cs with
    | '[' :: rest =>
      match skipSpace rest with
      | ']' :: rest => some (.list [], rest)
      | rest => (readItems depth [] rest).map fun (items, rest) => (.list items, rest)
    | '\x7b' :: rest =>
      match skipSpace rest with
      | '\x7d' :: rest => some (.object [], rest)
      | rest =>
        (readFields depth [] rest).map fun (fields, rest) => (.object (Fields.ofPairs fields), rest)
    | cs => readScalar cs

/-- The items of a list that is not empty; `read` holds those so far backwards. -/
def readItems : Nat → List Data → List Char → Option (List Data × List Char)
  | 0, _, _ => none
  | depth + 1, read, cs =>
    match readValue depth cs with
    | none => none
    | some (item, rest) =>
      match skipSpace rest with
      | ',' :: rest => readItems depth (item :: read) rest
      | ']' :: rest => some ((item :: read).reverse, rest)
      | _ => none

/-- The fields of an object that is not empty; `read` holds those so far backwards. -/
def readFields : Nat → List (String × Data) → List Char →
    Option (List (String × Data) × List Char)
  | 0, _, _ => none
  | depth + 1, read, cs =>
    match skipSpace cs with
    | '"' :: rest =>
      match readTextFrom [] rest with
      | none => none
      | some (name, rest) =>
        match skipSpace rest with
        | ':' :: rest =>
          match readValue depth rest with
          | none => none
          | some (value, rest) =>
            match skipSpace rest with
            | ',' :: rest => readFields depth ((String.ofList name, value) :: read) rest
            | '\x7d' :: rest => some (((String.ofList name, value) :: read).reverse, rest)
            | _ => none
        | _ => none
    | _ => none

end

/-- The value that a text denotes, if it is written in the format. -/
def read? (s : String) : Option Data :=
  let cs := s.toList
  match readValue (cs.length + 1) cs with
  | none => none
  | some (value, rest) => if (skipSpace rest).isEmpty then some value else none

end RuleElements.Json
