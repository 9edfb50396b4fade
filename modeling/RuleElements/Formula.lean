import RuleElements.Data.Basic
import RuleElements.Log
import RuleElements.Schema.Issue

/-!
# Values of rule elements

The value of a rule element is a number or a text, and the text is a plain decimal or a formula over
the level of the character: the level itself, a multiple of it, or its quotient rounded down. The
number in a formula is an integer read off a text, so it must not have too many digits; a plain
decimal may have any number of them.

Main definitions:
* `Formula.parse`: the formula that a text spells.
* `Formula.evaluate`: the value of a formula at a level, by way of a double-precision number.
* `Operand.resolve`: the value of an operand at a level.

Results:
* `Formula.parse?_quotient_pos`: a divisor is never zero.
-/

namespace RuleElements

/-- A formula over the level of the character. -/
inductive Formula
  | level
  | product (factor : Nat)
  | quotient (divisor : Nat)
  deriving DecidableEq, Repr, Inhabited

namespace Formula

/-- The name of the level in formulas. -/
def levelName : List Char := "@actor.level".toList

/-- The natural number that the characters spell with decimal digits of any script. Reading fails on
too many digits, whatever number they denote. -/
def readNatural (cs : List Char) : Except ArithmeticFault (Option Nat) :=
  match Decimal.scanDigits Text.decimalValue? cs with
  | ([], _) => .ok none
  | (digits, []) =>
    if Text.digitLimit < digits.length then .error (.tooManyDigits digits.length)
    else .ok (some (Decimal.ofDigits digits))
  | _ => .ok none

/-- The quotient by a divisor other than zero. -/
def quotient? : Nat → Option Formula
  | 0 => none
  | divisor + 1 => some (.quotient (divisor + 1))

/-- What follows the name of the level. -/
def parseTail (cs : List Char) : Except ArithmeticFault (Option Formula) :=
  if cs.isEmpty then .ok (some .level)
  else
    match cs.dropWhile Text.isBlank with
    | '*' :: rest => (readNatural (rest.dropWhile Text.isBlank)).map (·.map .product)
    | '/' :: rest => (readNatural (rest.dropWhile Text.isBlank)).map (·.bind quotient?)
    | _ => .ok none

/-- The formula that a text spells, blanks around it not counted. -/
def parse (s : String) : Except ArithmeticFault (Option Formula) :=
  let cs := Text.trimWhere Text.isBlank s.toList
  if levelName.isPrefixOf cs then parseTail (cs.drop levelName.length) else .ok none

/-- The formula that a text spells and that can be read. -/
def parse? (s : String) : Option Formula := (parse s).toOption.join

/-- Whether a text is a formula. -/
def accepts (s : String) : Except ArithmeticFault Bool := (parse s).map Option.isSome

/-- The formula as an expression in `level`. -/
def text : Formula → String
  | .level => "level"
  | .product factor => "level * " ++ toString factor
  | .quotient divisor => "floor(level / " ++ toString divisor ++ ")"

/-- An integer by way of the double-precision number nearest to it. -/
def throughReal (n : Int) : Except ArithmeticFault Number :=
  (Binary64.ofInt? n).map .ofBinary64

/-- The value at a level. A product is exact and then rounded; a quotient is rounded, then cut down
to an integer. -/
def evaluate (level : Int) : Formula → Except ArithmeticFault Number
  | .level => throughReal level
  | .product factor => throughReal (level * factor)
  | .quotient divisor =>
    match Binary64.ofQuotient? level divisor with
    | .ok x => throughReal (x.floor?.getD 0)
    | .error fault => .error fault

theorem parse?_eq_some {s : String} {formula : Formula} :
    parse? s = some formula ↔ parse s = .ok (some formula) := by
  unfold parse?
  rcases parse s with fault | found <;> simp [Except.toOption]

theorem quotient?_eq_some {n : Nat} {formula : Formula} :
    quotient? n = some formula ↔ n ≠ 0 ∧ formula = .quotient n := by
  cases n with
  | zero => simp [quotient?]
  | succ divisor => simp [quotient?, eq_comm]

/-- A divisor is never zero. -/
theorem parse?_quotient_pos {s : String} {divisor : Nat} (h : parse? s = some (.quotient divisor)) :
    0 < divisor := by
  rw [parse?_eq_some] at h
  simp only [parse, parseTail] at h
  split at h
  · split at h
    · cases h
    · split at h
      · generalize readNatural _ = number at h
        rcases number with fault | (_ | factor) <;> cases h
      · generalize readNatural _ = number at h
        rcases number with fault | (_ | n)
        · cases h
        · cases h
        · obtain ⟨hne, heq⟩ := quotient?_eq_some.mp (Except.ok.inj h)
          cases heq
          exact Nat.pos_of_ne_zero hne
      · cases h
  · cases h

end Formula

/-- The number that the characters spell as a plain decimal: a sign, digits, a point, digits. -/
def readNumeral? (cs : List Char) : Option Number :=
  let (negative, unsigned) := Decimal.scanSign cs
  match Decimal.scan Text.decimalValue? unsigned with
  | (d, []) =>
    if d.hasDigits && d.exponent.isNone then some (.ofBinary64 (d.toBinary64 negative)) else none
  | _ => none

/-- The value of a rule element: a number, or a text to be read. -/
inductive Operand
  | number (n : Number)
  | text (s : String)
  deriving DecidableEq, Repr, Inhabited

namespace Operand

/-- The operand as raw data. -/
def toData : Operand → Data
  | .number n => .number n
  | .text s => .text s

/-- An operand from raw data: numbers and texts are taken as they are, truth values as integers. -/
def read : Data → Checked Operand
  | .number n => .valid (.number n)
  | .boolean b => .valid (.number (.integer (if b then 1 else 0)))
  | .text s => .valid (.text s)
  | _ =>
    .invalid [⟨["int"], .notInteger⟩, ⟨["float"], .notNumber⟩, ⟨["str"], .notText⟩]

/-- The value of a text at a level. -/
def resolveText (level : Int) (s : String) : Attempt Number :=
  match readNumeral? (Text.trimWhere Text.isBlank s.toList) with
  | some n => .made n
  | none =>
    match Formula.parse s with
    | .ok (some formula) => .ofArithmetic (formula.evaluate level)
    | .ok none => .inert [.warning .values ("Unsupported formula " ++ Text.quoted s)]
    | .error fault => .failed fault

/-- The value of an operand at a level. -/
def resolve (level : Int) : Operand → Attempt Number
  | .number n => .made n
  | .text s => resolveText level s

end Operand

/-- The value of raw data as an operand at a level; anything but numbers and texts has none. -/
def Data.resolve (level : Int) : Data → Attempt Number
  | .number n => .made n
  | .text s => Operand.resolveText level s
  | other => .inert [.warning .values ("Cannot resolve rule element value " ++ other.display)]

end RuleElements
