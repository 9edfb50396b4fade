import RuleElements.Text.Split

/-!
# Integers in texts

Two spellings of an integer are read. `readInteger?` takes decimal digits of any script, after one
sign and with single underscores between them, but no more of them than `digitLimit`.
`readPlainInteger?` takes ASCII digits, skips leading zeros and allows a fraction of zeros. Both
allow blanks around the integer.
-/

namespace RuleElements.Text

/-- The largest number of digits with which an integer is read off a text, leading zeros counted. -/
def digitLimit : Nat := 4300

/-- The number of decimal digits among some characters. -/
def digitCount (cs : List Char) : Nat := cs.countP isDecimal

/-- The wording of a failure to read as many digits. -/
def tooManyDigitsText (count : Nat) : String :=
  "Exceeds the limit (" ++ toString digitLimit ++
    " digits) for integer string conversion: value has " ++ toString count ++
    " digits; use sys.set_int_max_str_digits() to increase the limit"

/-- Reads digits from the left on top of `value`; `ready` says that a digit stands before. -/
def readDigitsFrom (value? : Char → Option Nat) : Nat → Bool → List Char → Option Nat
  | value, ready, [] => if ready then some value else none
  | value, ready, c :: cs =>
    if c = '_' then if ready then readDigitsFrom value? value false cs else none
    else
      match value? c with
      | some digit => readDigitsFrom value? (value * 10 + digit) true cs
      | none => none

/-- One or more digits, with single underscores between them. -/
def readDigits? (value? : Char → Option Nat) (cs : List Char) : Option Nat :=
  readDigitsFrom value? 0 false cs

/-- A reading of digits with an optional sign before them. -/
def readSigned? (read? : List Char → Option Nat) : List Char → Option Int
  | '+' :: cs => (read? cs).map Int.ofNat
  | '-' :: cs => (read? cs).map fun n => -Int.ofNat n
  | cs => (read? cs).map Int.ofNat

/-- An integer in decimal digits of any script, if they are not too many. -/
def readInteger? (s : String) : Option Int :=
  if digitLimit < digitCount s.toList then none
  else readSigned? (readDigits? decimalValue?) (trimWhere isSpace s.toList)

/-- Whether a character is an ASCII digit other than zero. -/
def isNonzeroDigit (c : Char) : Bool := c.isDigit && c ≠ '0'

/-- The characters without a plus sign before them, which no minus sign may follow. -/
def dropPlus : List Char → Option (List Char)
  | '+' :: '-' :: _ => none
  | '+' :: cs => some cs
  | cs => some cs

/-- The characters after a leading zero, from where the numeral proper begins: at a minus sign or at
a digit other than zero. Before a point, and at the end, the character `last` before it stays. -/
def afterZero (last : Char) : List Char → Option (List Char)
  | [] => some [last]
  | c :: cs =>
    if c = '0' || c = '_' then afterZero c cs
    else if c = '-' || isNonzeroDigit c then some (c :: cs)
    else if c = '.' then some (last :: c :: cs)
    else none

/-- The characters without leading zeros; the first one must be a digit or a minus sign. -/
def dropLeadingZeros : List Char → Option (List Char)
  | [] => none
  | c :: cs =>
    if c = '0' then afterZero c cs
    else if c = '-' || isNonzeroDigit c then some (c :: cs)
    else none

/-- The characters without a final point with zeros after it. -/
def dropZeroFraction (cs : List Char) : List Char :=
  match cs.dropWhile (· ≠ '.') with
  | '.' :: '0' :: zeros => if zeros.all (· = '0') then cs.takeWhile (· ≠ '.') else cs
  | _ => cs

/-- The characters without their underscores, if these stand alone and inside. -/
def dropUnderscores? (cs : List Char) : Option (List Char) :=
  if cs.head? = some '_' || cs.getLast? = some '_' || occursIn ['_', '_'] cs then none
  else some (cs.filter (· ≠ '_'))

/-- An integer in ASCII digits. Spaces around it, a plus sign, leading zeros, single underscores
inside and a fraction of zeros do not count. A minus sign stands before all digits, or after leading
zeros. -/
def readPlainInteger? (s : String) : Option Int := do
  let cs ← dropLeadingZeros (← dropPlus (trimWhere isSpace s.toList))
  readSigned? (readDigits? asciiDigitValue?) (← dropUnderscores? (dropZeroFraction cs))

example : readInteger? " -1_0 " = some (-10) := by decide +kernel

example : readPlainInteger? "+5.00" = some 5 := by decide +kernel

example : readPlainInteger? "5." = none := by decide +kernel

example : readPlainInteger? "00-9" = some (-9) := by decide +kernel

example : readPlainInteger? "-00" = some 0 := by decide +kernel

example : readPlainInteger? "00--9" = none := by decide +kernel

end RuleElements.Text
