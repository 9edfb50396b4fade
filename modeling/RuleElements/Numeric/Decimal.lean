import RuleElements.Numeric.Binary64
import RuleElements.Text.Numeral

/-!
# Decimal notation

A decimal in parts: digits before the point, digits after it, and an exponent of ten. The notations
of the library (value texts, the two file formats, numbers in texts) read the same parts and differ
in which of them must be there.
-/

namespace RuleElements

/-- A decimal without its sign. -/
structure Decimal where
  whole : List Nat
  /-- The digits after the point; nothing if there is no point. -/
  fraction : Option (List Nat)
  exponent : Option Int
  deriving DecidableEq, Repr, Inhabited

namespace Decimal

/-- The natural number with the given decimal digits. -/
def ofDigits (digits : List Nat) : Nat := digits.foldl (fun n digit => n * 10 + digit) 0

/-- The leading digits and the rest. -/
def scanDigits (value? : Char → Option Nat) : List Char → List Nat × List Char
  | [] => ([], [])
  | c :: cs =>
    match value? c with
    | some digit =>
      let (digits, rest) := scanDigits value? cs
      (digit :: digits, rest)
    | none => ([], c :: cs)

/-- An exponent, if the characters begin with one, and the rest. -/
def scanExponent (value? : Char → Option Nat) (cs : List Char) : Option Int × List Char :=
  let signed (negative : Bool) (after : List Char) : Option Int × List Char :=
    match scanDigits value? after with
    | ([], _) => (none, cs)
    | (digits, rest) =>
      let n : Int := ofDigits digits
      (some (if negative then -n else n), rest)
  match cs with
  | e :: '+' :: after => if e = 'e' || e = 'E' then signed false after else (none, cs)
  | e :: '-' :: after => if e = 'e' || e = 'E' then signed true after else (none, cs)
  | e :: after => if e = 'e' || e = 'E' then signed false after else (none, cs)
  | [] => (none, [])

/-- The longest decimal at the head of the characters, each part of which may be missing, and the
rest. -/
def scan (value? : Char → Option Nat) (cs : List Char) : Decimal × List Char :=
  let (whole, rest) := scanDigits value? cs
  let (fraction, rest) :=
    match rest with
    | '.' :: after =>
      let (digits, rest) := scanDigits value? after
      (some digits, rest)
    | _ => (none, rest)
  let (exponent, rest) := scanExponent value? rest
  (⟨whole, fraction, exponent⟩, rest)

/-- Whether there is a digit before or after the point. -/
def hasDigits (d : Decimal) : Bool := !(d.whole ++ d.fraction.getD []).isEmpty

/-- The nearest number. -/
def toBinary64 (d : Decimal) (negative : Bool) : Binary64 :=
  let fraction := d.fraction.getD []
  Binary64.ofDecimal negative (ofDigits (d.whole ++ fraction)) (d.exponent.getD 0 - fraction.length)

/-- The sign at the head of the characters, and the rest. -/
def scanSign : List Char → Bool × List Char
  | '+' :: cs => (false, cs)
  | '-' :: cs => (true, cs)
  | cs => (false, cs)

end Decimal

/-- The names of the numbers without digits, in lowercase. -/
def Binary64.ofName? (name : String) (negative : Bool) : Option Binary64 :=
  match name with
  | "inf" | "infinity" => some (.infinite negative)
  | "nan" => some .nan
  | _ => none

/-- A number in characters without blanks: a signed decimal, or the name of an infinity or of what
is not a number, in letters of either case. -/
def Binary64.ofChars? (value? : Char → Option Nat) (cs : List Char) : Option Binary64 :=
  let (negative, cs) := Decimal.scanSign cs
  match Binary64.ofName? (String.ofList (cs.map Char.toLower)) negative with
  | some x => some x
  | none =>
    match Decimal.scan value? cs with
    | (d, []) => if d.hasDigits then some (d.toBinary64 negative) else none
    | _ => none

/-- A number in a text, in ASCII digits. Either there are spaces around it, or single underscores
inside, which do not count. -/
def Binary64.read? (s : String) : Option Binary64 :=
  match Binary64.ofChars? Text.asciiDigitValue? (Text.trimWhere Text.isSpace s.toList) with
  | some x => some x
  | none => (Text.dropUnderscores? s.toList).bind (Binary64.ofChars? Text.asciiDigitValue?)

end RuleElements
