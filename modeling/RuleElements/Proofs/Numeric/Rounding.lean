import Mathlib.Algebra.Order.Field.Power
import Mathlib.Data.Rat.Floor
import Mathlib.Tactic.Linarith
import Mathlib.Tactic.Positivity
import Mathlib.Tactic.NormNum
import Mathlib.Tactic.Ring
import RuleElements.Numeric.Number

/-!
# Where rounding overflows

`Binary64.roundFraction` writes a fraction `n / d` with the exponent of its binade and rounds what
is left to an integer. It gives an infinity exactly from `2 ^ 1024 - 2 ^ 970` on, the midpoint
between the largest finite number and `2 ^ 1024`, whose significand is the even one.

Results:
* `binade_spec`: the binade of a positive fraction is the one it lies in.
* `roundFraction_eq_infinite_iff`: the overflow threshold of a quotient.
* `roundFraction_finite`: a finite result has a significand and an exponent in their ranges.
* `ofInt?_eq_error_iff`, `ofQuotient?_eq_error_iff`: which integers and quotients are too large.
* `floor_natAbs_lt`: the floor of a finite quotient is never too large.
-/

namespace RuleElements

/-- Rounding to an integer stays, or goes up by one from the half on. -/
theorem nearest_cases (n d : Nat) :
    (nearest n d = n / d ∧ 2 * (n % d) ≤ d) ∨ (nearest n d = n / d + 1 ∧ d ≤ 2 * (n % d)) := by
  unfold nearest
  split
  · exact .inl ⟨rfl, by omega⟩
  · split
    · exact .inr ⟨rfl, by omega⟩
    · rcases Nat.mod_two_eq_zero_or_one (n / d) with h | h
      · exact .inl ⟨by omega, by omega⟩
      · exact .inr ⟨by omega, by omega⟩

/-- From an odd integer the half goes up. -/
theorem nearest_of_odd {n d : Nat} (hodd : n / d % 2 = 1) (hhalf : d ≤ 2 * (n % d)) :
    nearest n d = n / d + 1 := by
  unfold nearest
  rw [if_neg (by omega)]
  split
  · rfl
  · omega

namespace Binary64

/-! ## Powers of two with an integer exponent -/

/-- The two shifts of the library, one for each sign of the exponent, are a power of two. -/
theorem twoPow_div_twoPow (e : Int) : (twoPow e.toNat : ℚ) / twoPow (-e).toNat = 2 ^ e := by
  unfold twoPow
  rcases Int.le_total 0 e with h | h
  · obtain ⟨k, rfl⟩ := Int.eq_ofNat_of_zero_le h
    have : (-(k : Int)).toNat = 0 := by omega
    rw [this]
    simp
  · obtain ⟨k, hk⟩ := Int.eq_ofNat_of_zero_le (Int.neg_nonneg_of_nonpos h)
    obtain rfl : e = -(k : Int) := by omega
    have : (-(k : Int)).toNat = 0 := by omega
    rw [this]
    simp

theorem twoPow_pos (k : Nat) : 0 < twoPow k := Nat.two_pow_pos k

/-- The value of a number in parts. -/
theorem scaled_eq (negative : Bool) (significand : Nat) (e : Int) :
    scaled negative significand e = (if negative then -1 else 1) * significand * 2 ^ e := by
  unfold scaled
  rw [Rat.mkRat_eq_div, ← twoPow_div_twoPow]
  push_cast
  cases negative <;> simp <;> ring

/-- Comparing two naturals after a shift is comparing their quotient with a power of two. -/
theorem shifted_le_iff (n d : Nat) (e : Int) :
    d * twoPow e.toNat ≤ n * twoPow (-e).toNat ↔ (2 : ℚ) ^ e * d ≤ n := by
  have hpos : (0 : ℚ) < twoPow (-e).toNat := by exact_mod_cast twoPow_pos _
  rw [← twoPow_div_twoPow, div_mul_eq_mul_div, div_le_iff₀ hpos, mul_comm (twoPow e.toNat : ℚ)]
  exact_mod_cast Iff.rfl

/-! ## The binade -/

theorem log2_spec {n : Nat} (hn : 0 < n) :
    (2 : ℚ) ^ (n.log2 : Int) ≤ n ∧ (n : ℚ) < 2 ^ ((n.log2 : Int) + 1) := by
  constructor
  · rw [zpow_natCast]
    exact_mod_cast Nat.log2_self_le hn.ne'
  · have : ((n.log2 : Int) + 1) = ((n.log2 + 1 : Nat) : Int) := by push_cast; rfl
    rw [this, zpow_natCast]
    exact_mod_cast Nat.lt_log2_self

/-- **The binade.** A positive fraction lies between the power of two of its binade and the next
one. -/
theorem binade_spec {n d : Nat} (hn : 0 < n) (hd : 0 < d) :
    (2 : ℚ) ^ binade n d * d ≤ n ∧ (n : ℚ) < 2 ^ (binade n d + 1) * d := by
  obtain ⟨hn1, hn2⟩ := log2_spec hn
  obtain ⟨hd1, hd2⟩ := log2_spec hd
  unfold binade
  simp only
  generalize (n.log2 : Int) = a at *
  generalize (d.log2 : Int) = b at *
  split
  · rename_i h
    rw [shifted_le_iff] at h
    refine ⟨h, hn2.trans_le ?_⟩
    calc (2 : ℚ) ^ (a + 1) = 2 ^ (a - b + 1) * 2 ^ b := by
          rw [← zpow_add₀ two_ne_zero]; congr 1; omega
      _ ≤ 2 ^ (a - b + 1) * d := by gcongr
  · rename_i h
    rw [shifted_le_iff] at h
    refine ⟨le_trans ?_ hn1, ?_⟩
    · calc (2 : ℚ) ^ (a - b - 1) * d ≤ 2 ^ (a - b - 1) * 2 ^ (b + 1) := by gcongr
        _ = 2 ^ a := by rw [← zpow_add₀ two_ne_zero]; congr 1; omega
    · rw [Int.sub_add_cancel]
      exact not_le.mp h

/-- A power of two is below a fraction exactly when it is not above the binade. -/
theorem le_binade_iff {n d : Nat} (hn : 0 < n) (hd : 0 < d) (k : Nat) :
    (k : Int) ≤ binade n d ↔ d * twoPow k ≤ n := by
  obtain ⟨h1, h2⟩ := binade_spec hn hd
  have hd0 : (0 : ℚ) < d := by exact_mod_cast hd
  have hcast : d * twoPow k ≤ n ↔ (2 : ℚ) ^ (k : Int) * d ≤ n := by
    have := shifted_le_iff n d k
    have hk : (-(k : Int)).toNat = 0 := by omega
    rw [hk] at this
    simpa [twoPow] using this
  rw [hcast]
  constructor
  · intro h
    refine le_trans ?_ h1
    gcongr
    exact one_le_two
  · intro h
    have hlt := lt_of_mul_lt_mul_right (h.trans_lt h2) hd0.le
    have := (zpow_lt_zpow_iff_right₀ one_lt_two).mp hlt
    omega

/-! ## The parts of a rounded fraction -/

/-- The significand of a fraction at its rounding exponent, before a carry. -/
def roundedSignificand (n d : Nat) : Nat :=
  nearest (n * twoPow (-roundingExponent n d).toNat) (d * twoPow (roundingExponent n d).toNat)

/-- A rounded fraction by its parts: a significand that has grown to `2 ^ 53` is halved. -/
theorem roundFraction_eq (negative : Bool) {n : Nat} (hn : n ≠ 0) (d : Nat) :
    roundFraction negative n d =
      if roundedSignificand n d = 2 ^ 53 then
        if maxExponent < roundingExponent n d + 1 then .infinite negative
        else .finite negative (2 ^ 52) (roundingExponent n d + 1)
      else
        if maxExponent < roundingExponent n d then .infinite negative
        else .finite negative (roundedSignificand n d) (roundingExponent n d) := by
  unfold roundFraction
  rw [if_neg hn]
  simp only
  by_cases h : roundedSignificand n d = 2 ^ 53
  · rw [if_pos h, if_pos (show nearest _ _ = twoPow precision from h)]
    rfl
  · rw [if_neg h, if_neg (show ¬nearest _ _ = twoPow precision from h)]
    rfl

/-- At its rounding exponent a fraction is below `2 ^ 53`. -/
theorem shifted_lt {n d : Nat} (hn : 0 < n) (hd : 0 < d) :
    n * twoPow (-roundingExponent n d).toNat <
      2 ^ 53 * (d * twoPow (roundingExponent n d).toNat) := by
  obtain ⟨-, hlt⟩ := binade_spec hn hd
  have hle : binade n d + 1 ≤ roundingExponent n d + 53 := by
    have : (precision : Int) = 53 := rfl
    unfold roundingExponent
    omega
  generalize roundingExponent n d = e at *
  have hd0 : (0 : ℚ) < d := by exact_mod_cast hd
  have hbig : (n : ℚ) < 2 ^ (e + 53) * d := by
    refine hlt.trans_le ?_
    gcongr
    exact one_le_two
  have hpos : (0 : ℚ) < twoPow (-e).toNat := by exact_mod_cast twoPow_pos _
  have hsplit : (2 : ℚ) ^ (e + 53) * d * twoPow (-e).toNat = 2 ^ 53 * (d * twoPow e.toNat) := by
    rw [zpow_add₀ two_ne_zero, ← twoPow_div_twoPow]
    field_simp
  have := mul_lt_mul_of_pos_right hbig hpos
  rw [hsplit] at this
  exact_mod_cast this

theorem roundedSignificand_le {n d : Nat} (hn : 0 < n) (hd : 0 < d) :
    roundedSignificand n d ≤ 2 ^ 53 := by
  have hD : 0 < d * twoPow (roundingExponent n d).toNat := Nat.mul_pos hd (twoPow_pos _)
  have := (Nat.div_lt_iff_lt_mul hD).mpr (shifted_lt hn hd)
  have := nearest_le (n * twoPow (-roundingExponent n d).toNat)
    (d * twoPow (roundingExponent n d).toNat)
  unfold roundedSignificand
  omega

/-- **The ranges of a finite result.** -/
theorem roundFraction_finite {negative s : Bool} {n d m : Nat} {e : Int} (hd : 0 < d)
    (h : roundFraction negative n d = .finite s m e) : m < 2 ^ 53 ∧ e ≤ maxExponent := by
  rcases Nat.eq_zero_or_pos n with rfl | hn
  · simp only [roundFraction, if_true, zero, finite.injEq] at h
    obtain ⟨-, rfl, rfl⟩ := h
    decide
  · have hle := roundedSignificand_le hn hd
    rw [roundFraction_eq negative hn.ne'] at h
    split at h
    · split at h
      · cases h
      · rename_i he
        cases h
        exact ⟨by norm_num, Int.not_lt.mp he⟩
    · rename_i hne
      split at h
      · cases h
      · rename_i he
        cases h
        exact ⟨by omega, Int.not_lt.mp he⟩

/-! ## The threshold -/

/-- The least magnitude that is rounded to an infinity. -/
def overflowBound : Nat := 2 ^ 1024 - 2 ^ 970

theorem overflowBound_eq : overflowBound = (2 ^ 54 - 1) * twoPow 970 := by
  decide +kernel

theorem overflowBound_pos : 0 < overflowBound := by
  rw [overflowBound_eq]
  exact Nat.mul_pos (by norm_num) (twoPow_pos _)

/-- In the last binade the significand is rounded up to `2 ^ 53` exactly from the threshold on. -/
theorem roundedSignificand_last {n d : Nat} (hn : 0 < n) (hd : 0 < d)
    (he : roundingExponent n d = maxExponent) :
    roundedSignificand n d = 2 ^ 53 ↔ d * overflowBound ≤ n := by
  have hlt := shifted_lt hn hd
  unfold roundedSignificand
  rw [he] at hlt ⊢
  have h1 : twoPow (-maxExponent).toNat = 1 := rfl
  have h2 : d * twoPow maxExponent.toNat = 2 * (d * twoPow 970) := by
    have : twoPow maxExponent.toNat = twoPow 970 * 2 := by decide +kernel
    rw [this, Nat.mul_left_comm, Nat.mul_comm 2, Nat.mul_assoc, Nat.mul_left_comm]
  have h3 : d * overflowBound = (2 ^ 54 - 1) * (d * twoPow 970) := by
    rw [overflowBound_eq, Nat.mul_left_comm]
  rw [h1, Nat.mul_one, h2] at hlt ⊢
  rw [h3]
  have hX : 0 < d * twoPow 970 := Nat.mul_pos hd (twoPow_pos _)
  generalize d * twoPow 970 = X at *
  have hdiv := Nat.div_add_mod n (2 * X)
  have hmod := Nat.mod_lt n (show 0 < 2 * X by omega)
  have hq : n / (2 * X) < 2 ^ 53 := (Nat.div_lt_iff_lt_mul (by omega)).mpr hlt
  have hodd := @nearest_of_odd n (2 * X)
  have hcases := nearest_cases n (2 * X)
  generalize nearest n (2 * X) = m at *
  generalize n / (2 * X) = q at *
  generalize n % (2 * X) = r at *
  constructor
  · intro hm
    have : q = 2 ^ 53 - 1 := by omega
    subst this
    omega
  · intro hle
    have : q = 2 ^ 53 - 1 := by
      by_contra hne
      have := Nat.mul_le_mul_left (2 * X) (show q ≤ 2 ^ 53 - 2 by omega)
      omega
    subst this
    have := hodd (by decide) (by omega)
    omega

/-- **Overflow.** A fraction is rounded to an infinity exactly from the threshold on. -/
theorem roundFraction_eq_infinite_iff (negative : Bool) {n d : Nat} (hd : 0 < d) :
    roundFraction negative n d = .infinite negative ↔ d * overflowBound ≤ n := by
  rcases Nat.eq_zero_or_pos n with rfl | hn
  · have := Nat.mul_pos hd overflowBound_pos
    simp only [roundFraction, if_true, zero, reduceCtorEq, false_iff]
    omega
  have hexp : roundingExponent n d = max (-1074) (binade n d - 52) := rfl
  have hX : d * overflowBound = (2 ^ 54 - 1) * (d * twoPow 970) := by
    rw [overflowBound_eq, Nat.mul_left_comm]
  rw [roundFraction_eq negative hn.ne', show maxExponent = 971 from rfl]
  -- the last binade is decided by the significand, the others by the exponent alone
  rcases lt_trichotomy (roundingExponent n d) 971 with he | he | he
  · have hlow := le_binade_iff hn hd 1023
    have h1023 : twoPow 1023 = 2 ^ 53 * twoPow 970 := by decide +kernel
    rw [h1023, Nat.mul_left_comm] at hlow
    have hsmall : ¬ d * overflowBound ≤ n := by omega
    have hcarry : ¬ 971 < roundingExponent n d + 1 := by omega
    rw [if_neg hcarry, if_neg (show ¬ 971 < roundingExponent n d by omega)]
    split <;> simp [hsmall]
  · have hlast := roundedSignificand_last hn hd he
    rw [← hlast, he, if_pos (show (971 : Int) < 971 + 1 by decide),
      if_neg (show ¬ (971 : Int) < 971 by decide)]
    split
    · rename_i h
      exact iff_of_true rfl h
    · rename_i h
      exact iff_of_false (fun hinf => by cases hinf) h
  · have hhigh := le_binade_iff hn hd 1024
    have h1024 : twoPow 1024 = 2 ^ 54 * twoPow 970 := by decide +kernel
    rw [h1024, Nat.mul_left_comm] at hhigh
    have hlarge : d * overflowBound ≤ n := by omega
    rw [if_pos (show 971 < roundingExponent n d + 1 by omega), if_pos he]
    simp [hlarge]

/-- An infinite result has the given sign. -/
theorem roundFraction_infinite {negative s : Bool} {n d : Nat}
    (h : roundFraction negative n d = .infinite s) : s = negative := by
  rcases Nat.eq_zero_or_pos n with rfl | hn
  · simp [roundFraction, zero] at h
  · rw [roundFraction_eq negative hn.ne'] at h
    split at h <;> split at h <;> cases h <;> rfl

/-- A rounded fraction is finite or infinite. -/
theorem roundFraction_ne_nan (negative : Bool) (n d : Nat) : roundFraction negative n d ≠ .nan := by
  rcases Nat.eq_zero_or_pos n with rfl | hn
  · simp [roundFraction, zero]
  · rw [roundFraction_eq negative hn.ne']
    split <;> split <;> simp

/-! ## Integers and quotients that are too large -/

/-- **Integers.** An integer has no finite nearest number exactly from the threshold on. -/
theorem ofInt?_eq_error_iff (n : Int) (fault : ArithmeticFault) :
    ofInt? n = .error fault ↔ fault = .integerTooLarge ∧ overflowBound ≤ n.natAbs := by
  have hiff := roundFraction_eq_infinite_iff (decide (n < 0)) (n := n.natAbs) Nat.one_pos
  rw [Nat.one_mul] at hiff
  rw [← hiff]
  unfold ofInt? ofInt
  split
  · rename_i s h
    obtain rfl := roundFraction_infinite h
    rw [h]
    simp [eq_comm]
  · rename_i h
    simp only [reduceCtorEq, false_iff, not_and]
    exact fun _ => h _

/-- **Quotients.** A quotient has no finite nearest number exactly when it is not below the
threshold. -/
theorem ofQuotient?_eq_error_iff (n : Int) {d : Nat} (hd : 0 < d) (fault : ArithmeticFault) :
    ofQuotient? n d = .error fault ↔
      fault = .quotientTooLarge ∧ d * overflowBound ≤ n.natAbs := by
  rw [← roundFraction_eq_infinite_iff (decide (n < 0)) hd]
  unfold ofQuotient? ofQuotient
  split
  · rename_i s h
    obtain rfl := roundFraction_infinite h
    rw [h]
    simp [eq_comm]
  · rename_i h
    simp only [reduceCtorEq, false_iff, not_and]
    exact fun _ => h _

/-- The magnitude of a finite rounded fraction is below the threshold. -/
theorem abs_scaled_le {significand : Nat} {e : Int} (negative : Bool)
    (hm : significand < 2 ^ 53) (he : e ≤ maxExponent) :
    |scaled negative significand e| ≤ ((overflowBound - 1 : Nat) : ℚ) := by
  have habs : |scaled negative significand e| = significand * 2 ^ e := by
    rw [scaled_eq]
    cases negative <;> simp [abs_mul, abs_of_pos, zpow_pos]
  have hle : (significand : ℚ) ≤ ((2 ^ 53 - 1 : Nat) : ℚ) := by
    exact_mod_cast Nat.le_sub_one_of_lt hm
  have hpow : (2 : ℚ) ^ e ≤ ((2 ^ 971 : Nat) : ℚ) := by
    rw [Nat.cast_pow, Nat.cast_ofNat, ← zpow_natCast]
    exact zpow_le_zpow_right₀ one_le_two he
  rw [habs]
  calc (significand : ℚ) * 2 ^ e ≤ ((2 ^ 53 - 1 : Nat) : ℚ) * ((2 ^ 971 : Nat) : ℚ) := by gcongr
    _ = (((2 ^ 53 - 1) * 2 ^ 971 : Nat) : ℚ) := (Nat.cast_mul _ _).symm
    _ ≤ ((overflowBound - 1 : Nat) : ℚ) := by
      exact_mod_cast (by decide +kernel : (2 ^ 53 - 1) * 2 ^ 971 ≤ overflowBound - 1)

/-- **Floors.** The floor of a finite quotient is never too large for a double again. -/
theorem floor_natAbs_lt {n : Int} {d : Nat} (hd : 0 < d) {x : Binary64}
    (h : ofQuotient? n d = .ok x) : (x.floor?.getD 0).natAbs < overflowBound := by
  have hpos := overflowBound_pos
  unfold ofQuotient? ofQuotient at h
  cases hx : roundFraction (decide (n < 0)) n.natAbs d with
  | nan => exact absurd hx (roundFraction_ne_nan _ _ _)
  | infinite s => rw [hx] at h; cases h
  | finite s m e =>
    rw [hx] at h
    cases h
    obtain ⟨hm, he⟩ := roundFraction_finite hd hx
    obtain ⟨hlow, hhigh⟩ := abs_le.mp (abs_scaled_le s hm he)
    have h1 : (scaled s m e).floor ≤ ((overflowBound - 1 : Nat) : Int) := by
      have := (Rat.floor_le (scaled s m e)).trans hhigh
      exact_mod_cast this
    have h2 : -((overflowBound - 1 : Nat) : Int) ≤ (scaled s m e).floor := by
      rw [Rat.le_floor_iff]
      exact_mod_cast hlow
    show (scaled s m e).floor.natAbs < overflowBound
    omega

end Binary64

end RuleElements
