import Mathlib.Data.Nat.Cast.Field
import RuleElements.Proofs.Numeric.Rounding

/-!
# Rounding up to `2 ^ 53`

Up to `2 ^ 53` a double lies on every integer, so integers are not rounded at all. A quotient that
is no integer is rounded, but by less than its distance to the next integer: between `n / d` and an
integer there is at least `1 / d`, and the doubles around `n / d` lie at most `2 / d` apart as long
as `n` is no larger than `2 ^ 53`.

Main definitions:
* `rounded`: the magnitude that a fraction is rounded to.

Results:
* `abs_rounded_sub_le`: rounding moves by half a step at most.
* `rounded_of_dvd`: integers are not rounded.
* `rounded_between`: other quotients stay between the same two integers.
* `ofInt?_eq_ok`, `exists_ofQuotient?`: integers and floors of quotients are exact.
-/

namespace RuleElements

/-- A quotient is its integer part and a fraction. -/
theorem div_eq_add_mod (n : Nat) {d : Nat} (hd : 0 < d) :
    (n : ℚ) / d = (n / d : Nat) + (n % d : Nat) / d := by
  have hd0 : (d : ℚ) ≠ 0 := by exact_mod_cast hd.ne'
  have hsplit : (n : ℚ) = d * (n / d : Nat) + (n % d : Nat) := by
    exact_mod_cast (Nat.div_add_mod n d).symm
  conv_lhs => rw [hsplit]
  field_simp

/-- A quotient that is no integer keeps a distance to the integers around it. -/
theorem div_between {n d : Nat} (hd : 0 < d) (h : ¬ d ∣ n) :
    ((n / d : Nat) : ℚ) + 1 / d ≤ n / d ∧ (n : ℚ) / d + 1 / d ≤ (n / d : Nat) + 1 := by
  have hd0 : (0 : ℚ) < d := by exact_mod_cast hd
  have hrem : 1 ≤ n % d := Nat.pos_of_ne_zero fun hzero => h (Nat.dvd_of_mod_eq_zero hzero)
  have hlow : 1 / (d : ℚ) ≤ (n % d : Nat) / d := by
    have : (1 : ℚ) ≤ (n % d : Nat) := by exact_mod_cast hrem
    gcongr
  have hhigh : ((n % d : Nat) : ℚ) / d + 1 / d ≤ 1 := by
    rw [← add_div, div_le_one hd0]
    exact_mod_cast Nat.mod_lt n hd
  rw [div_eq_add_mod n hd]
  constructor <;> linarith

/-- The floor of a number between two integers, and of its negative. -/
theorem floor_signed {f : Nat} {x : ℚ} (hx : (f : ℚ) < x ∧ x < f + 1) (negative : Bool) :
    ⌊(if negative then -1 else 1) * x⌋ = if negative then -((f : Int) + 1) else f := by
  rw [Int.floor_eq_iff]
  cases negative
  · simp only [Bool.false_eq_true, if_false, Int.cast_natCast]
    constructor <;> linarith [hx.1, hx.2]
  · simp only [if_true]
    push_cast
    constructor <;> linarith [hx.1, hx.2]

/-- Rounding to an integer moves by one half at most. -/
theorem abs_nearest_sub_le (n : Nat) {d : Nat} (hd : 0 < d) :
    |(nearest n d : ℚ) - n / d| ≤ 1 / 2 := by
  have hd0 : (0 : ℚ) < d := by exact_mod_cast hd
  rw [div_eq_add_mod n hd]
  generalize hr : n % d = r
  have hrd : (r : ℚ) ≤ d := by exact_mod_cast hr ▸ (Nat.mod_lt n hd).le
  rcases nearest_cases n d with ⟨hnear, hhalf⟩ | ⟨hnear, hhalf⟩
  · have hle : 2 * (r : ℚ) ≤ d := by exact_mod_cast hr ▸ hhalf
    have hfrac : (r : ℚ) / d ≤ 1 / 2 := by
      rw [div_le_div_iff₀ hd0 two_pos]
      linarith
    have hpos : 0 ≤ (r : ℚ) / d := by positivity
    rw [hnear, abs_le]
    constructor <;> linarith
  · have hle : (d : ℚ) ≤ 2 * r := by exact_mod_cast hr ▸ hhalf
    have hfrac : 1 / 2 ≤ (r : ℚ) / d := by
      rw [div_le_div_iff₀ two_pos hd0]
      linarith
    have hone : (r : ℚ) / d ≤ 1 := (div_le_one hd0).mpr hrd
    rw [hnear, abs_le]
    push_cast
    constructor <;> linarith

namespace Binary64

variable {n d : Nat}

/-- **The magnitude that a fraction is rounded to.** -/
def rounded (n d : Nat) : ℚ := roundedSignificand n d * 2 ^ roundingExponent n d

/-- A fraction after the two shifts of its rounding. -/
theorem shifted_div (n d : Nat) (e : Int) :
    ((n * twoPow (-e).toNat : Nat) : ℚ) / (d * twoPow e.toNat : Nat) = n / d * 2 ^ (-e) := by
  have hpow : (2 : ℚ) ^ (-e) = (twoPow (-e).toNat : ℚ) / twoPow e.toNat := by
    have := twoPow_div_twoPow (-e)
    rw [neg_neg] at this
    exact this.symm
  rw [hpow]
  push_cast
  rw [mul_div_mul_comm]

/-- **Rounding moves by half a step** of the rounding exponent at most. -/
theorem abs_rounded_sub_le (n : Nat) (hd : 0 < d) :
    |rounded n d - n / d| ≤ 2 ^ (roundingExponent n d - 1) := by
  unfold rounded roundedSignificand
  generalize roundingExponent n d = e
  have hpos : (0 : ℚ) < 2 ^ e := zpow_pos two_pos e
  have hnear := abs_nearest_sub_le (n * twoPow (-e).toNat)
    (Nat.mul_pos hd (twoPow_pos e.toNat))
  rw [shifted_div] at hnear
  generalize (nearest (n * twoPow (-e).toNat) (d * twoPow e.toNat) : ℚ) = m at hnear ⊢
  have hback : (n : ℚ) / d = n / d * 2 ^ (-e) * 2 ^ e := by
    rw [mul_assoc, ← zpow_add₀ two_ne_zero, neg_add_cancel, zpow_zero, mul_one]
  calc |m * 2 ^ e - n / d| = |m - n / d * 2 ^ (-e)| * 2 ^ e := by
        conv_lhs => rw [hback, ← sub_mul, abs_mul, abs_of_pos hpos]
    _ ≤ 1 / 2 * 2 ^ e := by gcongr
    _ = 2 ^ (e - 1) := by
        rw [zpow_sub_one₀ two_ne_zero]
        ring

/-- A fraction with a divisor up to `2 ^ 53` is rounded to 53 bits; it is not too small for that. -/
theorem roundingExponent_eq (hn : 0 < n) (hd : 0 < d) (hsmall : d ≤ 2 ^ 53) :
    roundingExponent n d = binade n d - 52 := by
  obtain ⟨-, hlt⟩ := binade_spec hn hd
  have hn1 : (1 : ℚ) ≤ n := by exact_mod_cast hn
  have hd53 : (d : ℚ) ≤ 2 ^ (53 : Int) := by exact_mod_cast hsmall
  have hone : (2 : ℚ) ^ (0 : Int) < 2 ^ (binade n d + 1 + 53) := by
    calc (2 : ℚ) ^ (0 : Int) = 1 := zpow_zero 2
      _ ≤ n := hn1
      _ < 2 ^ (binade n d + 1) * d := hlt
      _ ≤ 2 ^ (binade n d + 1) * 2 ^ (53 : Int) := by gcongr
      _ = 2 ^ (binade n d + 1 + 53) := (zpow_add₀ two_ne_zero _ _).symm
  have hexp := (zpow_lt_zpow_iff_right₀ one_lt_two).mp hone
  have hmin : minExponent = -1074 := rfl
  have hprec : (precision - 1 : Nat) = 52 := rfl
  unfold roundingExponent
  rw [hmin, hprec]
  omega

/-- The shifts of rounding leave a quotient without remainder without one, up to `2 ^ 53`. -/
theorem shifted_dvd (hn : 0 < n) (hd : 0 < d) (hle : n ≤ 2 ^ 53) (h : d ∣ n) :
    d * twoPow (roundingExponent n d).toNat ∣ n * twoPow (-roundingExponent n d).toNat := by
  have hexp := roundingExponent_eq hn hd ((Nat.le_of_dvd hn h).trans hle)
  rcases Int.lt_or_le 0 (roundingExponent n d) with hpos | hneg
  · -- only `2 ^ 53` itself is shifted to the right, by a single bit
    have h53 := (le_binade_iff hn hd 53).mp (by omega)
    have h54 := (le_binade_iff hn hd 54).not.mpr (by
      have : twoPow 54 = 2 * 2 ^ 53 := rfl
      rw [this]
      nlinarith)
    have hone : roundingExponent n d = 1 := by omega
    have htwo : twoPow 53 = 2 ^ 53 := rfl
    rw [htwo] at h53
    obtain rfl : d = 1 := by
      by_contra hne
      have : 2 * 2 ^ 53 ≤ d * 2 ^ 53 := Nat.mul_le_mul_right _ (by omega)
      omega
    obtain rfl : n = 2 ^ 53 := by omega
    rw [hone]
    decide +kernel
  · have hzero : (roundingExponent n d).toNat = 0 := by omega
    rw [hzero]
    have hpow : twoPow 0 = 1 := rfl
    rw [hpow, Nat.mul_one]
    exact Dvd.dvd.mul_right h _

/-- **Integers are not rounded**, up to `2 ^ 53`. -/
theorem rounded_of_dvd (hd : 0 < d) (hle : n ≤ 2 ^ 53) (h : d ∣ n) : rounded n d = n / d := by
  rcases Nat.eq_zero_or_pos n with rfl | hn
  · have hzero : roundedSignificand 0 d = 0 := by
      unfold roundedSignificand
      rw [Nat.zero_mul, nearest_eq_of_dvd (Nat.mul_pos hd (twoPow_pos _)) (Nat.dvd_zero _),
        Nat.zero_div]
    simp [rounded, hzero]
  · have hdvd := shifted_dvd hn hd hle h
    unfold rounded roundedSignificand
    generalize roundingExponent n d = e at hdvd ⊢
    have hD := Nat.mul_pos hd (twoPow_pos e.toNat)
    have hD0 : ((d * twoPow e.toNat : Nat) : ℚ) ≠ 0 := by exact_mod_cast hD.ne'
    rw [nearest_eq_of_dvd hD hdvd, Nat.cast_div hdvd hD0, shifted_div, mul_assoc,
      ← zpow_add₀ two_ne_zero, neg_add_cancel, zpow_zero, mul_one]

/-- A quotient that is no integer is rounded by less than `1 / d`. -/
theorem abs_rounded_sub_lt (hn : 0 < n) (hd : 0 < d) (hle : n ≤ 2 ^ 53) (hsmall : d ≤ 2 ^ 53)
    (h : ¬ d ∣ n) : |rounded n d - n / d| < 1 / d := by
  obtain ⟨hbinade, -⟩ := binade_spec hn hd
  have hd0 : (0 : ℚ) < d := by exact_mod_cast hd
  have hle' : (n : ℚ) ≤ 2 ^ (53 : Int) := by exact_mod_cast hle
  refine (abs_rounded_sub_le n hd).trans_lt ?_
  rw [roundingExponent_eq hn hd hsmall]
  generalize hk : binade n d = k at hbinade
  by_contra hnot
  -- Half a step could only be as large as `1 / d` if `n` were `2 ^ 53` and `d` a power of two.
  have hstep : (2 : ℚ) ^ (k - 52 - 1) * 2 ^ (53 : Int) = 2 ^ k := by
    rw [← zpow_add₀ two_ne_zero]
    congr 1
    omega
  have hlow : (2 : ℚ) ^ (53 : Int) ≤ 2 ^ k * d := by
    have hmul := mul_le_mul_of_nonneg_right (not_lt.mp hnot) (mul_pos hd0 (zpow_pos two_pos 53)).le
    calc (2 : ℚ) ^ (53 : Int) = 1 / d * (d * 2 ^ (53 : Int)) := by field_simp
      _ ≤ 2 ^ (k - 52 - 1) * (d * 2 ^ (53 : Int)) := hmul
      _ = 2 ^ (k - 52 - 1) * 2 ^ (53 : Int) * d := by ring
      _ = 2 ^ k * d := by rw [hstep]
  have heq : (2 : ℚ) ^ k * d = n := le_antisymm hbinade (hle'.trans hlow)
  have hk0 : 0 ≤ k := by
    by_contra hneg
    have hlt : (2 : ℚ) ^ k < 1 := by
      rw [← zpow_zero (2 : ℚ)]
      exact zpow_lt_zpow_right₀ one_lt_two (not_le.mp hneg)
    have hd53 : (d : ℚ) ≤ 2 ^ (53 : Int) := by exact_mod_cast hsmall
    have := mul_lt_mul_of_pos_right hlt hd0
    linarith
  obtain ⟨j, rfl⟩ := Int.eq_ofNat_of_zero_le hk0
  refine h ⟨2 ^ j, ?_⟩
  rw [mul_comm]
  have hcast : ((2 ^ j * d : Nat) : ℚ) = n := by
    push_cast
    exact_mod_cast heq
  exact_mod_cast hcast.symm

/-- **Other quotients stay between the same two integers**, up to `2 ^ 53`. -/
theorem rounded_between (hd : 0 < d) (hle : n ≤ 2 ^ 53) (hsmall : d ≤ 2 ^ 53) (h : ¬ d ∣ n) :
    ((n / d : Nat) : ℚ) < rounded n d ∧ rounded n d < (n / d : Nat) + 1 := by
  have hn : 0 < n := Nat.pos_of_ne_zero fun hzero => h (hzero ▸ Nat.dvd_zero d)
  obtain ⟨hlow, hhigh⟩ := div_between hd h
  obtain ⟨hdown, hup⟩ := abs_lt.mp (abs_rounded_sub_lt hn hd hle hsmall h)
  constructor <;> linarith

/-! ## Doubles -/

/-- A fraction that is not too large is rounded to its rounded magnitude, with its sign. -/
theorem exists_roundFraction (negative : Bool) (hd : 0 < d) (hlarge : n < d * overflowBound) :
    ∃ m e, roundFraction negative n d = .finite negative m e ∧
      scaled negative m e = (if negative then -1 else 1) * rounded n d := by
  rcases Nat.eq_zero_or_pos n with rfl | hn
  · refine ⟨0, minExponent, by simp [roundFraction, zero], ?_⟩
    rw [scaled_eq, rounded_of_dvd hd (Nat.zero_le _) (Nat.dvd_zero d)]
    simp
  · have hfinite : roundFraction negative n d ≠ .infinite negative :=
      (roundFraction_eq_infinite_iff negative hd).not.mpr (Nat.not_le.mpr hlarge)
    rw [roundFraction_eq negative hn.ne'] at hfinite ⊢
    simp only [scaled_eq]
    split at hfinite
    · rename_i hcarry
      rw [if_pos hcarry]
      split at hfinite
      · exact absurd rfl hfinite
      · rename_i hexp
        rw [if_neg hexp]
        refine ⟨_, _, rfl, ?_⟩
        unfold rounded
        rw [hcarry, zpow_add_one₀ two_ne_zero]
        push_cast
        ring
    · rename_i hcarry
      rw [if_neg hcarry]
      split at hfinite
      · exact absurd rfl hfinite
      · rename_i hexp
        rw [if_neg hexp]
        refine ⟨_, _, rfl, ?_⟩
        unfold rounded
        ring

theorem lt_mul_overflowBound (hd : 0 < d) (hle : n ≤ 2 ^ 53) : n < d * overflowBound := by
  have hbound : 2 ^ 53 < overflowBound := by
    rw [overflowBound_eq]
    decide +kernel
  exact (hle.trans_lt hbound).trans_le (Nat.le_mul_of_pos_left _ hd)

/-- The sign of an integer times its magnitude. -/
theorem sign_mul_natAbs (n : Int) :
    (if decide (n < 0) = true then -1 else 1) * (n.natAbs : ℚ) = n := by
  by_cases h : n < 0
  · rw [if_pos (by simpa using h), Nat.cast_natAbs, abs_of_neg h]
    push_cast
    ring
  · rw [if_neg (by simpa using h), Nat.cast_natAbs, abs_of_nonneg (not_lt.mp h), one_mul]

/-- **Integers up to `2 ^ 53`** are doubles. -/
theorem ofInt?_eq_ok {n : Int} (hle : n.natAbs ≤ 2 ^ 53) :
    ∃ s m e, ofInt? n = .ok (.finite s m e) ∧ scaled s m e = n := by
  obtain ⟨m, e, hround, hvalue⟩ := exists_roundFraction (decide (n < 0)) Nat.one_pos
    (lt_mul_overflowBound Nat.one_pos hle)
  refine ⟨decide (n < 0), m, e, by simp only [ofInt?, ofInt, hround], ?_⟩
  rw [hvalue, rounded_of_dvd Nat.one_pos hle (Nat.one_dvd _), Nat.cast_one, div_one,
    sign_mul_natAbs]

/-- **Floors of quotients** are exact: a quotient of integers up to `2 ^ 53` is rounded to a double
that has the floor of the quotient itself. -/
theorem exists_ofQuotient? {n : Int} (hd : 0 < d) (hle : n.natAbs ≤ 2 ^ 53) (hsmall : d ≤ 2 ^ 53) :
    ∃ x, ofQuotient? n d = .ok x ∧ x.floor? = some ⌊(n : ℚ) / d⌋ := by
  obtain ⟨m, e, hround, hvalue⟩ := exists_roundFraction (decide (n < 0)) hd
    (lt_mul_overflowBound hd hle)
  refine ⟨.finite (decide (n < 0)) m e, by simp only [ofQuotient?, ofQuotient, hround], ?_⟩
  show some (scaled (decide (n < 0)) m e).floor = _
  rw [hvalue, ← sign_mul_natAbs n, mul_div_assoc]
  by_cases h : d ∣ n.natAbs
  · rw [rounded_of_dvd hd hle h]
    rfl
  · -- Both magnitudes lie between the same two integers, so the sign makes no difference.
    have hd0 : (0 : ℚ) < 1 / d := by positivity
    obtain ⟨hlow, hhigh⟩ := div_between hd h
    have hquot : ((n.natAbs / d : Nat) : ℚ) < n.natAbs / d ∧
        (n.natAbs : ℚ) / d < (n.natAbs / d : Nat) + 1 := by
      constructor <;> linarith
    exact congrArg some ((floor_signed (rounded_between hd hle hsmall h) _).trans
      (floor_signed hquot _).symm)

end Binary64

end RuleElements
