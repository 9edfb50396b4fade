import RuleElements.Text.Table.Class

/-!
# Character classes and quoted texts

Texts are sequences of Unicode code points, and every class of characters is Unicode's own, not its
ASCII part: blanks, decimal digits, digits in the wider sense, and printable characters.

Main definitions:
* `Text.isBlank`, `Text.isSpace`, `Text.decimalValue?`, `Text.isDigit`, `Text.isPrintable`: the
  classes.
* `Text.quoted`: a text as messages show it.
-/

namespace RuleElements.Text

/-- Membership in a list of closed ranges of code points. -/
def inRanges (ranges : List (Nat × Nat)) (n : Nat) : Bool :=
  ranges.any fun r => r.1 ≤ n && n ≤ r.2

/-- Blanks: the separators of Unicode and the controls that separate lines or fields. The
zero-width space is none. -/
def isBlank (c : Char) : Bool :=
  inRanges [(0x09, 0x0D), (0x1C, 0x20), (0x85, 0x85), (0xA0, 0xA0), (0x1680, 0x1680),
    (0x2000, 0x200A), (0x2028, 0x2029), (0x202F, 0x202F), (0x205F, 0x205F),
    (0x3000, 0x3000)] c.toNat

/-- Blanks less the four separators of files, groups, records and units. -/
def isSpace (c : Char) : Bool :=
  isBlank c && !(0x1C ≤ c.toNat && c.toNat ≤ 0x1F)

/-- The value of a decimal digit of any script. -/
def decimalValue? (c : Char) : Option Nat :=
  (decimalZeros.find? fun first => first ≤ c.toNat && c.toNat < first + 10).map (c.toNat - ·)

/-- Decimal digits of any script. -/
def isDecimal (c : Char) : Bool := (decimalValue? c).isSome

/-- The value of a hexadecimal digit in ASCII. -/
def hexDigitValue? (c : Char) : Option Nat :=
  if c.isDigit then some (c.toNat - 48)
  else if 'a' ≤ c && c ≤ 'f' then some (c.toNat - 87)
  else if 'A' ≤ c && c ≤ 'F' then some (c.toNat - 55)
  else none

/-- The value of one of the ten ASCII digits. -/
def asciiDigitValue? (c : Char) : Option Nat :=
  if c.isDigit then some (c.toNat - 48) else none

/-- Digits of any kind: decimal ones, superscripts, subscripts and circled ones. -/
def isDigit (c : Char) : Bool := inRanges digitRanges c.toNat

/-- Characters that are shown as themselves inside quotes; the space is the only printable blank. -/
def isPrintable (c : Char) : Bool := !inRanges printableGaps c.toNat

/-! ## Quoted texts

Messages show a text between single quotes, or between double quotes if it holds a single quote and
no double one. The quote in use, the backslash, tab, line feed and carriage return are escaped; any
other character that is not printable is written by its code point.
-/

/-- The lowercase hexadecimal digits of `n`, at least `width` of them. -/
def hexDigits (width n : Nat) : List Char :=
  let digits := Nat.toDigits 16 n
  List.replicate (width - digits.length) '0' ++ digits

/-- A character by its code point, with two, four or eight hexadecimal digits. -/
def escapeCodePoint (c : Char) : List Char :=
  let n := c.toNat
  if n < 0x100 then '\\' :: 'x' :: hexDigits 2 n
  else if n < 0x10000 then '\\' :: 'u' :: hexDigits 4 n
  else '\\' :: 'U' :: hexDigits 8 n

/-- A character inside quotes. -/
def escapeChar (quote c : Char) : List Char :=
  if c = quote || c = '\\' then ['\\', c]
  else if c = '\t' then ['\\', 't']
  else if c = '\n' then ['\\', 'n']
  else if c = '\r' then ['\\', 'r']
  else if isPrintable c then [c]
  else escapeCodePoint c

/-- The quote that needs the fewest escapes, the single one if there is a choice. -/
def quoteFor (cs : List Char) : Char :=
  if cs.contains '\'' && !cs.contains '"' then '"' else '\''

/-- The text between quotes. -/
def quoted (s : String) : String :=
  let quote := quoteFor s.toList
  String.ofList (quote :: s.toList.flatMap (escapeChar quote) ++ [quote])

example : quoted "it's" = "\"it's\"" := by decide +kernel

example : quoted "a\n\u200b'\"" = "'a\\n\\u200b\\'\"'" := by decide +kernel

end RuleElements.Text
