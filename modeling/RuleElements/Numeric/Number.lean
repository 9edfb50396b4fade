import RuleElements.Numeric.Decimal
import RuleElements.Numeric.Shortest

/-!
# Numbers

The numbers of the rules are integers without a bound and double-precision numbers. They mix: a
result with a double-precision operand is a double-precision number, and comparisons are exact, by
value.

Main definitions:
* `ArithmeticFault`: the ways in which arithmetic fails.
* `Number.larger`, `Number.smaller`: of two equal numbers the first one is kept.
-/

namespace RuleElements

/-- The ways in which arithmetic fails. -/
inductive ArithmeticFault
  | integerTooLarge
  | quotientTooLarge
  | infinityToInteger
  | nanToInteger
  /-- an integer in a text has more digits than are read -/
  | tooManyDigits (count : Nat)
  deriving DecidableEq, Repr, Inhabited

/-- The wording of a failure. -/
def ArithmeticFault.message : ArithmeticFault → String
  | .integerTooLarge => "int too large to convert to float"
  | .quotientTooLarge => "integer division result too large for a float"
  | .infinityToInteger => "cannot convert float infinity to integer"
  | .nanToInteger => "cannot convert float NaN to integer"
  | .tooManyDigits count => Text.tooManyDigitsText count

/-- A number of the rules. -/
inductive Number
  | integer (n : Int)
  | real (x : Binary64)
  deriving DecidableEq, Repr, Inhabited

/-- The double-precision number nearest to an integer; integers beyond the largest one fail. -/
def Binary64.ofInt? (n : Int) : Except ArithmeticFault Binary64 :=
  match Binary64.ofInt n with
  | .infinite _ => .error .integerTooLarge
  | x => .ok x

/-- The double-precision number nearest to a quotient; quotients beyond the largest one fail. -/
def Binary64.ofQuotient? (n : Int) (d : Nat) : Except ArithmeticFault Binary64 :=
  match Binary64.ofQuotient n d with
  | .infinite _ => .error .quotientTooLarge
  | x => .ok x

namespace Number

/-- Integer arithmetic on two integers, double-precision arithmetic otherwise. -/
def combine (onIntegers : Int → Int → Int) (onReals : Binary64 → Binary64 → Binary64) :
    Number → Number → Except ArithmeticFault Number
  | .integer a, .integer b => .ok (.integer (onIntegers a b))
  | .integer a, .real y => (Binary64.ofInt? a).map fun x => .real (onReals x y)
  | .real x, .integer b => (Binary64.ofInt? b).map fun y => .real (onReals x y)
  | .real x, .real y => .ok (.real (onReals x y))

/-- The sum. -/
def add : Number → Number → Except ArithmeticFault Number := combine (· + ·) (· + ·)

/-- The difference. -/
def sub : Number → Number → Except ArithmeticFault Number := combine (· - ·) (· - ·)

/-- The product. -/
def mul : Number → Number → Except ArithmeticFault Number := combine (· * ·) (· * ·)

/-- Strictly below an integer, exactly. -/
def realLtInteger : Binary64 → Int → Bool
  | .nan, _ => false
  | .infinite negative, _ => negative
  | .finite s m e, n => Binary64.scaled s m e < (n : Rat)

/-- Strictly above an integer, exactly. -/
def integerLtReal : Int → Binary64 → Bool
  | _, .nan => false
  | _, .infinite negative => !negative
  | n, .finite s m e => (n : Rat) < Binary64.scaled s m e

/-- Strictly below, by exact value; never with a NaN. -/
def lt : Number → Number → Bool
  | .integer a, .integer b => a < b
  | .integer a, .real y => integerLtReal a y
  | .real x, .integer b => realLtInteger x b
  | .real x, .real y => Binary64.lt x y

/-- Equality with an integer, exactly. -/
def realIsInteger : Binary64 → Int → Bool
  | .finite s m e, n => Binary64.scaled s m e == (n : Rat)
  | _, _ => false

/-- Equal by exact value; a NaN differs from itself. -/
def same : Number → Number → Bool
  | .integer a, .integer b => a == b
  | .integer a, .real y => realIsInteger y a
  | .real x, .integer b => realIsInteger x b
  | .real x, .real y => Binary64.same x y

/-- Below or equal, by exact value; never with a NaN. -/
def le (a b : Number) : Bool := lt a b || same a b

/-- The larger number; the first of two equal ones. -/
def larger (a b : Number) : Number := if lt a b then b else a

/-- The smaller number; the first of two equal ones. -/
def smaller (a b : Number) : Number := if lt b a then b else a

/-- Above zero. -/
def isPositive (a : Number) : Bool := lt (.integer 0) a

/-- Below zero. -/
def isNegative (a : Number) : Bool := lt a (.integer 0)

/-- Equal to zero. -/
def isZero : Number → Bool
  | .integer n => n == 0
  | .real x => x.isZero

/-- The integer between the number and zero that is nearest to it. -/
def truncate : Number → Except ArithmeticFault Int
  | .integer n => .ok n
  | .real .nan => .error .nanToInteger
  | .real (.infinite _) => .error .infinityToInteger
  | .real (.finite s m e) => .ok ((Binary64.finite s m e).truncate?.getD 0)

/-- An integer if the number is a finite integer, the number itself otherwise. -/
def ofBinary64 (x : Binary64) : Number :=
  if x.isIntegral then .integer (x.floor?.getD 0) else .real x

/-- The sum of a list from the left, on top of an integer zero. -/
def sum (numbers : List Number) : Except ArithmeticFault Number :=
  numbers.foldlM add (.integer 0)

/-- The largest of a list, the first of equal ones; nothing for the empty list. -/
def maximum? : List Number → Option Number
  | [] => none
  | n :: ns => some (ns.foldl larger n)

/-- The written form. -/
def text : Number → String
  | .integer n => toString n
  | .real x => x.text

/-- The written form with a plus sign before a number that is zero or more. -/
def signedText (a : Number) : String := (if le (.integer 0) a then "+" else "") ++ a.text

/-- The written form with a plus sign unless there is a minus sign. -/
def alwaysSignedText (a : Number) : String :=
  let written := a.text
  if Text.startsWith written "-" then written else "+" ++ written

theorem add_integer (a b : Int) : add (.integer a) (.integer b) = .ok (.integer (a + b)) := rfl

theorem lt_integer (a b : Int) : lt (.integer a) (.integer b) = decide (a < b) := rfl

theorem larger_integer (a b : Int) : larger (.integer a) (.integer b) = .integer (max a b) := by
  unfold larger
  rw [lt_integer]
  by_cases h : a < b
  · simp [h, Int.max_eq_right (Int.le_of_lt h)]
  · have : b ≤ a := Int.not_lt.1 h
    by_cases hab : a = b
    · subst hab; simp
    · have : ¬ a ≤ b := by omega
      simp [h, Int.max_def, this]

/-- Sums of integers are integer sums. -/
theorem sum_integers (ns : List Int) :
    sum (ns.map .integer) = .ok (.integer (ns.foldl (· + ·) 0)) := by
  have step : ∀ (ns : List Int) (start : Int),
      (ns.map Number.integer).foldlM add (.integer start) =
        .ok (.integer (ns.foldl (· + ·) start)) := by
    intro ns
    induction ns with
    | nil => intro start; rfl
    | cons n ns ih => exact fun start => ih (start + n)
  exact step ns 0

end Number

end RuleElements
