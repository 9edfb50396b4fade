import RuleElements.Numeric.Binary64

/-!
# The shortest decimal of a double-precision number

A finite number is written with the fewest significant digits that are read back as the number; of
the decimals with that many digits the nearest is taken, and on a tie the one with an even last
digit.

Main definitions:
* `Binary64.shortest`: the digits and the exponent of the leading one.
* `Binary64.text`: the written form. Numbers from `10 ^ -4` up to `10 ^ 16` are written without an
  exponent and keep a fraction, if only `.0`; the others have an exponent with a sign and two digits
  or more.
-/

namespace RuleElements.Binary64

/-- The number of decimal digits of a natural number. -/
def digitCount (n : Nat) : Nat := (Nat.toDigits 10 n).length

/-- The greatest `k` with `10 ^ k ≤ q`, for a positive `q`. -/
def decade (q : Rat) : Int :=
  let n := q.num.natAbs
  let d := q.den
  if d ≤ n then (digitCount (n / d) : Int) - 1
  else
    let k := digitCount (d / n) - 1
    if n * tenPow k = d then -(k : Int) else -(k : Int) - 1

/-- Ten to an integer power. -/
def pow10 (k : Int) : Rat := mkRat (tenPow k.toNat) (tenPow (-k).toNat)

/-- The reals that are rounded to the number `significand · 2 ^ exponent`, as an interval. -/
structure Basin where
  low : Rat
  high : Rat
  /-- whether the ends belong to it -/
  closed : Bool

/-- Whether a real belongs to the interval. -/
def Basin.holds (b : Basin) (q : Rat) : Bool :=
  if b.closed then b.low ≤ q && q ≤ b.high else b.low < q && q < b.high

/-- The interval of the reals that are rounded to a positive number. Below a power of two the
neighbour is only half as far away. -/
def basin (significand : Nat) (exponent : Int) : Basin where
  low :=
    if significand = twoPow (precision - 1) && minExponent < exponent then
      scaled false (4 * significand - 1) (exponent - 2)
    else scaled false (2 * significand - 1) (exponent - 1)
  high := scaled false (2 * significand + 1) (exponent - 1)
  closed := significand % 2 == 0

/-- The decimal with `count` digits nearest to `q` among those in the basin, as a multiple of the
unit `10 ^ (decade q - count + 1)`. -/
def decimalOf? (b : Basin) (q : Rat) (count : Nat) : Option (Nat × Int) :=
  let unit := decade q - count + 1
  let scaledValue := q / pow10 unit
  let below := scaledValue.floor.toNat
  let fits (n : Nat) : Bool := b.holds ((n : Rat) * pow10 unit)
  let gap : Rat := scaledValue - below
  let pick :=
    if fits below && fits (below + 1) then
      if gap < 1 / 2 then some below
      else if 1 / 2 < gap then some (below + 1)
      else some (below + below % 2)
    else if fits below then some below
    else if fits (below + 1) then some (below + 1)
    else none
  pick.map fun n => (n, unit)

/-- The first of the counts `count, …, count + fuel` with a decimal in the basin. -/
def shortestFrom (b : Basin) (q : Rat) : Nat → Nat → Nat × Int
  | count, 0 => (decimalOf? b q count).getD (0, 0)
  | count, fuel + 1 =>
    match decimalOf? b q count with
    | some decimal => decimal
    | none => shortestFrom b q (count + 1) fuel

/-- The digits of the shortest decimal of a positive number, without zeros at the end, and the
exponent of the leading digit. Seventeen digits always suffice. -/
def shortest (significand : Nat) (exponent : Int) : List Char × Int :=
  let q := scaled false significand exponent
  let (n, unit) := shortestFrom (basin significand exponent) q 1 16
  let digits := Nat.toDigits 10 n
  ((digits.reverse.dropWhile (· = '0')).reverse, unit + digits.length - 1)

/-- The least exponent of a number that is written without one. -/
def leastPositional : Int := -4

/-- The least exponent beyond those of the numbers that are written without one. -/
def positionalEnd : Int := 16

/-- Digits with the point after the one of exponent zero. -/
def positional (digits : List Char) (exponent : Int) : List Char :=
  if exponent < 0 then '0' :: '.' :: List.replicate (-exponent - 1).toNat '0' ++ digits
  else
    let whole := exponent.toNat + 1
    if digits.length ≤ whole then digits ++ List.replicate (whole - digits.length) '0' ++ ['.', '0']
    else digits.take whole ++ '.' :: digits.drop whole

/-- Digits with the point after the first one, and the exponent. -/
def scientific (digits : List Char) (exponent : Int) : List Char :=
  let power := Nat.toDigits 10 exponent.natAbs
  (match digits with
    | [] => []
    | [d] => [d]
    | d :: ds => d :: '.' :: ds) ++
    'e' :: (if exponent < 0 then '-' else '+') :: List.replicate (2 - power.length) '0' ++ power

/-- The written form of a number. -/
def text : Binary64 → String
  | .nan => "nan"
  | .infinite negative => if negative then "-inf" else "inf"
  | .finite negative significand exponent =>
    let body :=
      if significand = 0 then "0.0".toList
      else
        let (digits, power) := shortest significand exponent
        if leastPositional ≤ power && power < positionalEnd then positional digits power
        else scientific digits power
    String.ofList (if negative then '-' :: body else body)

end RuleElements.Binary64
