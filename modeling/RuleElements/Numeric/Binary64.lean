/-!
# Double-precision numbers

The binary floating-point numbers with 53 significant bits and eleven exponent bits, as data. A
finite number is `± significand · 2 ^ exponent`; every operation computes the exact rational result
and rounds it once, to the nearest number and on a tie to the one with an even significand. Nothing
here depends on the machine's own arithmetic, so every result can be computed in a proof.

Main definitions:
* `Binary64.value`: the exact value of a finite number.
* `Binary64.round`: the one rounding of the whole library.

Results:
* `nearest_eq_of_dvd`: a quotient without remainder is not changed by rounding.
* `nearest_le`: a rounded quotient is at most one above its floor.
-/

namespace RuleElements

/-- A double-precision number. The operations build finite numbers with a significand below `2 ^ 53`
and an exponent from `-1074` to `971`, and with an exponent above `-1074` only if the significand is
at least `2 ^ 52`; both zeros have the exponent `-1074`. -/
inductive Binary64
  | nan
  | infinite (negative : Bool)
  | finite (negative : Bool) (significand : Nat) (exponent : Int)
  deriving DecidableEq, Repr, Inhabited

/-- The integer nearest to `n / d`; of two at the same distance the even one. -/
def nearest (n d : Nat) : Nat :=
  if 2 * (n % d) < d then n / d
  else if d < 2 * (n % d) then n / d + 1
  else n / d + n / d % 2

theorem nearest_eq_of_dvd {n d : Nat} (hd : 0 < d) (h : d ∣ n) : nearest n d = n / d := by
  simp [nearest, Nat.mod_eq_zero_of_dvd h, hd]

theorem nearest_le (n d : Nat) : nearest n d ≤ n / d + 1 := by
  unfold nearest
  split
  · omega
  · split <;> omega

namespace Binary64

/-- The exponent of the smallest numbers. -/
def minExponent : Int := -1074

/-- The exponent of the largest numbers. -/
def maxExponent : Int := 971

/-- The number of bits of a significand. -/
def precision : Nat := 53

/-- The zero of the given sign. -/
def zero (negative : Bool) : Binary64 := .finite negative 0 minExponent

/-- A power of two. -/
def twoPow (k : Nat) : Nat := Nat.pow 2 k

/-- A power of ten. -/
def tenPow (k : Nat) : Nat := Nat.pow 10 k

/-- The exact value of `± significand · 2 ^ exponent`. -/
def scaled (negative : Bool) (significand : Nat) (exponent : Int) : Rat :=
  mkRat ((if negative then -1 else 1) * (significand * twoPow exponent.toNat))
    (twoPow (-exponent).toNat)

/-- The exact value of a finite number, and zero for the others. -/
def value : Binary64 → Rat
  | .finite negative significand exponent => scaled negative significand exponent
  | _ => 0

/-- The greatest `k` with `2 ^ k ≤ n / d`, for a positive fraction. -/
def binade (n d : Nat) : Int :=
  let guess : Int := (n.log2 : Int) - d.log2
  if d * twoPow guess.toNat ≤ n * twoPow (-guess).toNat then guess else guess - 1

/-- The exponent with which a positive fraction is rounded. -/
def roundingExponent (n d : Nat) : Int := max minExponent (binade n d - (precision - 1 : Nat))

/-- The number nearest to the fraction `n / d` with the given sign; infinite if there is none. -/
def roundFraction (negative : Bool) (n d : Nat) : Binary64 :=
  if n = 0 then zero negative
  else
    let exponent := roundingExponent n d
    let significand := nearest (n * twoPow (-exponent).toNat) (d * twoPow exponent.toNat)
    let (significand, exponent) :=
      if significand = twoPow precision then (twoPow (precision - 1), exponent + 1)
      else (significand, exponent)
    if maxExponent < exponent then .infinite negative else .finite negative significand exponent

/-- The number nearest to `q`; `negativeZero` is the sign of a zero result. -/
def round (negativeZero : Bool) (q : Rat) : Binary64 :=
  roundFraction (if q.num = 0 then negativeZero else q.num < 0) q.num.natAbs q.den

/-- The sum. -/
def add : Binary64 → Binary64 → Binary64
  | .finite s m e, .finite t n f => round (s && t) (scaled s m e + scaled t n f)
  | .infinite s, .infinite t => if s = t then .infinite s else .nan
  | .infinite s, .finite .. => .infinite s
  | .finite .., .infinite t => .infinite t
  | .nan, _ => .nan
  | _, .nan => .nan

/-- The number with the other sign. -/
def neg : Binary64 → Binary64
  | .nan => .nan
  | .infinite s => .infinite !s
  | .finite s m e => .finite (!s) m e

/-- The difference. -/
def sub (x y : Binary64) : Binary64 := add x (neg y)

/-- The product. -/
def mul : Binary64 → Binary64 → Binary64
  | .finite s m e, .finite t n f => round (s != t) (scaled s m e * scaled t n f)
  | .infinite s, .infinite t => .infinite (s != t)
  | .infinite s, .finite t n _ => if n = 0 then .nan else .infinite (s != t)
  | .finite s m _, .infinite t => if m = 0 then .nan else .infinite (s != t)
  | .nan, _ => .nan
  | _, .nan => .nan

instance : Add Binary64 := ⟨add⟩
instance : Sub Binary64 := ⟨sub⟩
instance : Mul Binary64 := ⟨mul⟩
instance : Neg Binary64 := ⟨neg⟩

/-- Strictly below; never with a NaN. -/
def lt : Binary64 → Binary64 → Bool
  | .nan, _ => false
  | _, .nan => false
  | .infinite s, .infinite t => s && !t
  | .infinite s, .finite .. => s
  | .finite .., .infinite t => !t
  | .finite s m e, .finite t n f => scaled s m e < scaled t n f

/-- Equal as numbers: both zeros are equal, and a NaN differs from itself. -/
def same : Binary64 → Binary64 → Bool
  | .infinite s, .infinite t => s == t
  | .finite s m e, .finite t n f => scaled s m e == scaled t n f
  | _, _ => false

/-- Whether the number is a finite integer. -/
def isIntegral : Binary64 → Bool
  | .finite s m e => (scaled s m e).den == 1
  | _ => false

/-- The integer between the number and zero that is nearest to it; nothing for the others. -/
def truncate? : Binary64 → Option Int
  | .finite s m e => some ((scaled s m e).num.tdiv (scaled s m e).den)
  | _ => none

/-- The greatest integer that is not above the number; nothing for the others. -/
def floor? : Binary64 → Option Int
  | .finite s m e => some (scaled s m e).floor
  | _ => none

/-- Whether the number is a zero of either sign. -/
def isZero : Binary64 → Bool
  | .finite _ m _ => m == 0
  | _ => false

/-- The number nearest to an integer; infinite beyond the largest finite number. -/
def ofInt (n : Int) : Binary64 := roundFraction (n < 0) n.natAbs 1

/-- The number nearest to a quotient of integers, for a positive divisor. -/
def ofQuotient (n : Int) (d : Nat) : Binary64 := roundFraction (n < 0) n.natAbs d

/-- Exponents of ten from which every nonzero number is infinite, and below whose negative every
number rounds to zero. -/
def decimalBound : Int := 400

/-- The number nearest to `digits · 10 ^ exponent` with the given sign. -/
def ofDecimal (negative : Bool) (digits : Nat) (exponent : Int) : Binary64 :=
  if digits = 0 then zero negative
  else
    let size : Int := (Nat.toDigits 10 digits).length
    if decimalBound < exponent + size then .infinite negative
    else if exponent + size < -decimalBound then zero negative
    else roundFraction negative (digits * tenPow exponent.toNat) (tenPow (-exponent).toNat)

end Binary64

end RuleElements
