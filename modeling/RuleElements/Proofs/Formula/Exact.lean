import RuleElements.Proofs.Formula.Grammar
import RuleElements.Proofs.Numeric.Spacing

/-!
# Formulas are exact up to `2 ^ 53`

The value of a text goes through a double, and that of a quotient through two. Up to `2 ^ 53` none
of this shows: a numeral gives its integer, a multiple of the level is the exact product, and a
quotient is the floor of the exact one.

Main definitions:
* `SpellsInteger`: the numerals without a point.

Results:
* `Text.numberOf_toDigits`, `Formula.spells_plain`: the plainest ways to write numbers and formulas.
* `Formula.evaluate_quotient`, `Formula.evaluate_product`, `readNumeral?_integer`: the exact values.
* `Operand.resolveText_exact`: all of them.
-/

namespace RuleElements

open Text

/-! ## Numbers in decimal notation -/

namespace Text

theorem decimalValue?_of_isDigit {c : Char} (h : c.isDigit = true) :
    decimalValue? c = some (c.toNat - '0'.toNat) := by
  have hrange : 0x30 ≤ c.toNat ∧ c.toNat < 0x30 + 10 := by
    simp only [Char.isDigit, Bool.and_eq_true, decide_eq_true_eq] at h
    obtain ⟨hlow, hhigh⟩ := h
    have hlow' : '0'.toNat ≤ c.toNat := hlow
    have hhigh' : c.toNat ≤ '9'.toNat := hhigh
    exact ⟨hlow', Nat.lt_succ_of_le hhigh'⟩
  unfold decimalValue? decimalZeros
  rw [List.find?_cons_of_pos (by simpa using hrange)]
  rfl

theorem digitsOf_eq_map {cs : List Char} (h : ∀ c ∈ cs, c.isDigit = true) :
    digitsOf cs = cs.map fun c => c.toNat - '0'.toNat := by
  unfold digitsOf
  rw [← List.filterMap_eq_map]
  exact List.filterMap_congr fun c hc => decimalValue?_of_isDigit (h c hc)

/-- **A number in decimal notation** is written in digits, and they denote it. -/
theorem numberOf_toDigits (n : Nat) :
    IsNumber (Nat.toDigits 10 n) ∧ numberOf (Nat.toDigits 10 n) = n := by
  have hdigits : ∀ c ∈ Nat.toDigits 10 n, c.isDigit = true := fun c hc =>
    Nat.isDigit_of_mem_toDigits (by decide) (by decide) hc
  refine ⟨⟨Nat.toDigits_ne_nil, fun c hc => ?_⟩, ?_⟩
  · rw [isDecimal, decimalValue?_of_isDigit (hdigits c hc)]
    rfl
  · unfold numberOf Decimal.ofDigits
    rw [digitsOf_eq_map hdigits, List.foldl_map]
    conv_rhs => rw [← Nat.ofDigitChars_ten_toDigits (n := n)]
    simp only [Nat.ofDigitChars, Nat.mul_comm]

/-- A number up to `2 ^ 53` has few digits. -/
theorem length_toDigits_le {n : Nat} (hn : n ≤ 2 ^ 53) : (Nat.toDigits 10 n).length ≤ 400 :=
  (Nat.length_toDigits_le_iff (by decide) (by decide)).mpr (hn.trans_lt (by decide +kernel))

end Text

/-! ## Doubles that are integers -/

theorem Number.ofBinary64_of_scaled {s : Bool} {m : Nat} {e k : Int}
    (h : Binary64.scaled s m e = k) : ofBinary64 (.finite s m e) = .integer k := by
  have hintegral : (Binary64.finite s m e).isIntegral = true := by
    show ((Binary64.scaled s m e).den == 1) = true
    rw [h]
    rfl
  unfold ofBinary64
  rw [if_pos hintegral]
  show Number.integer (Binary64.scaled s m e).floor = _
  rw [h, Rat.floor_intCast]

/-- Up to `2 ^ 53` the double nearest to a natural number in decimal notation is that number. -/
theorem Binary64.ofDecimal_eq (negative : Bool) {digits : Nat} (hle : digits ≤ 2 ^ 53) :
    ∃ m e, ofDecimal negative digits 0 = .finite negative m e ∧
      scaled negative m e = (if negative then -1 else 1) * digits := by
  unfold ofDecimal
  by_cases hzero : digits = 0
  · rw [if_pos hzero]
    refine ⟨0, minExponent, rfl, ?_⟩
    rw [scaled_eq, hzero]
    simp
  · have hsize := length_toDigits_le hle
    have hbound : decimalBound = 400 := rfl
    have hten : tenPow (Int.toNat 0) = 1 ∧ tenPow (Int.toNat (-0)) = 1 := ⟨rfl, rfl⟩
    simp only
    rw [if_neg hzero, if_neg (by omega), if_neg (by omega), hten.1, hten.2, Nat.mul_one]
    obtain ⟨m, e, hround, hvalue⟩ := exists_roundFraction negative Nat.one_pos
      (lt_mul_overflowBound Nat.one_pos hle)
    refine ⟨m, e, hround, ?_⟩
    rw [hvalue, rounded_of_dvd Nat.one_pos hle (Nat.one_dvd _), Nat.cast_one, div_one]

/-! ## Numerals -/

/-- **How an integer is written**: in digits, which may have a sign. -/
inductive SpellsInteger : Int → List Char → Prop
  | plain {ds : List Char} (h : IsNumber ds) : SpellsInteger (numberOf ds) ds
  | plus {ds : List Char} (h : IsNumber ds) : SpellsInteger (numberOf ds) ('+' :: ds)
  | minus {ds : List Char} (h : IsNumber ds) : SpellsInteger (-(numberOf ds)) ('-' :: ds)

/-- Digits with a sign are read as the integer that they denote, up to `2 ^ 53`. -/
theorem readNumeral?_digits {negative : Bool} {ds cs : List Char}
    (h : SpellsSigned negative ⟨digitsOf ds, none, none⟩ cs) (hle : numberOf ds ≤ 2 ^ 53) {n : Int}
    (hn : n = (if negative then -1 else 1) * numberOf ds) :
    readNumeral? cs = some (.integer n) := by
  obtain ⟨m, e, hdecimal, hvalue⟩ := Binary64.ofDecimal_eq negative hle
  have hdouble : Decimal.toBinary64 ⟨digitsOf ds, none, none⟩ negative = .finite negative m e := by
    rw [← hdecimal]
    simp [Decimal.toBinary64, numberOf]
  have hscaled : Binary64.scaled negative m e = n := by
    rw [hvalue, hn]
    cases negative <;> simp
  refine readNumeral?_eq_some_iff.mpr ⟨negative, _, h, ?_⟩
  rw [hdouble, Number.ofBinary64_of_scaled hscaled]

/-- **An integer is read exactly**, up to `2 ^ 53`. -/
theorem readNumeral?_integer {n : Int} {cs : List Char} (h : SpellsInteger n cs)
    (hle : n.natAbs ≤ 2 ^ 53) : readNumeral? cs = some (.integer n) := by
  cases h with
  | plain h => exact readNumeral?_digits (.plain (.whole h)) (by omega) (by simp)
  | plus h => exact readNumeral?_digits (.plus (.whole h)) (by omega) (by simp)
  | minus h => exact readNumeral?_digits (.minus (.whole h)) (by omega) (by simp)

/-! ## Formulas -/

namespace Formula

variable {level : Int} {N : Nat}

/-- An integer up to `2 ^ 53` does not change on its way through a double. -/
theorem throughReal_eq {n : Int} (hle : n.natAbs ≤ 2 ^ 53) : throughReal n = .ok (.integer n) := by
  obtain ⟨s, m, e, hdouble, hvalue⟩ := Binary64.ofInt?_eq_ok hle
  unfold throughReal
  rw [hdouble]
  exact congrArg Except.ok (Number.ofBinary64_of_scaled hvalue)

/-- **A quotient** is the floor of the exact one. -/
theorem evaluate_quotient (hlevel : level.natAbs ≤ 2 ^ 53) (hpos : 1 ≤ N) (hN : N ≤ 2 ^ 53) :
    (quotient N).evaluate level = .ok (.integer ⌊(level : ℚ) / N⌋) := by
  obtain ⟨x, hquotient, hfloor⟩ := Binary64.exists_ofQuotient? hpos hlevel hN
  simp only [evaluate, hquotient, hfloor, Option.getD_some]
  refine throughReal_eq ?_
  rw [Rat.floor_intCast_div_natCast]
  exact (Int.natAbs_ediv_le_natAbs level N).trans hlevel

/-- **A multiple** of the level is the exact product. -/
theorem evaluate_product (hproduct : (level * N).natAbs ≤ 2 ^ 53) :
    (product N).evaluate level = .ok (.integer (level * N)) :=
  throughReal_eq hproduct

/-- What begins with no blank, and ends with a number up to `2 ^ 53`, is read as it stands. -/
theorem parse?_append_toString {start : String} {c : Char} {rest : List Char}
    (hstart : start.toList = c :: rest) (hc : isBlank c = false) (hlength : start.length ≤ 100)
    (hN : N ≤ 2 ^ 53) {formula : Formula}
    (h : formula.Spells (start.toList ++ Nat.toDigits 10 N)) :
    parse? (start ++ toString N) = some formula := by
  rw [parse?_eq_some_iff, Nat.toString_eq_ofList_toDigits,
    toList_strip_append hstart hc (numberOf_toDigits N).1]
  refine ⟨h, isLegible_of_length_le ?_⟩
  have hdigits := length_toDigits_le hN
  have hlimit : digitLimit = 4300 := rfl
  rw [List.length_append, String.length_toList]
  omega

/-- The plainest ways to write formulas. -/
theorem spells_plain (N : Nat) :
    (product N).Spells ("@actor.level * ".toList ++ Nat.toDigits 10 N) ∧
    (1 ≤ N → (quotient N).Spells ("@actor.level / ".toList ++ Nat.toDigits 10 N)) := by
  obtain ⟨hdigits, hvalue⟩ := numberOf_toDigits N
  have hblank : AreBlanks [' '] := List.forall_mem_singleton.mpr (by decide)
  constructor
  · refine ⟨" * ".toList ++ Nat.toDigits 10 N, rfl, ?_⟩
    have h := Follows.product hblank hblank hdigits
    rw [hvalue] at h
    exact h
  · intro hpos
    refine ⟨" / ".toList ++ Nat.toDigits 10 N, rfl, ?_⟩
    have h := Follows.quotient hblank hblank hdigits (by omega)
    rw [hvalue] at h
    exact h

/-- **The plainest texts are read** as the formulas that they are. -/
theorem parse?_plain (hN : N ≤ 2 ^ 53) :
    parse? ("@actor.level * " ++ toString N) = some (.product N) ∧
    (1 ≤ N → parse? ("@actor.level / " ++ toString N) = some (.quotient N)) :=
  ⟨parse?_append_toString rfl (by decide) (by decide) hN (spells_plain N).1,
    fun hpos => parse?_append_toString rfl (by decide) (by decide) hN ((spells_plain N).2 hpos)⟩

end Formula

/-! ## Operands -/

namespace Operand

variable {level : Int} {s : String}

theorem resolveText_of_spells {formula : Formula} {n : Number}
    (h : formula.Spells (strip s).toList) (hread : Formula.IsLegible (strip s).toList)
    (hvalue : formula.evaluate level = .ok n) : resolveText level s = .made n := by
  rw [resolveText_of_parse? (Formula.parse?_eq_some_iff.mpr ⟨h, hread⟩), hvalue]
  rfl

theorem resolveText_of_spellsInteger {n : Int} (h : SpellsInteger n (strip s).toList)
    (hle : n.natAbs ≤ 2 ^ 53) : resolveText level s = .made (.integer n) := by
  unfold resolveText
  rw [← toList_strip, readNumeral?_integer h hle]

/-- **Value texts are exact up to `2 ^ 53`**, whatever blanks they have and in digits of any script,
as long as these are not too many to be read. At a level of that magnitude, a quotient by a number
up to `2 ^ 53` comes to the floor of the exact quotient, and a multiple to the exact product if that
is no larger; the plain texts with the number in decimal notation are among them. And an integer up
to `2 ^ 53` comes to itself at every level, with any number of leading zeros. -/
theorem resolveText_exact (level : Int) :
    (∀ N : Nat, level.natAbs ≤ 2 ^ 53 → 1 ≤ N → N ≤ 2 ^ 53 →
      resolveText level ("@actor.level / " ++ toString N) = .made (.integer ⌊(level : ℚ) / N⌋) ∧
      (∀ s, (Formula.quotient N).Spells (strip s).toList → Formula.IsLegible (strip s).toList →
        resolveText level s = .made (.integer ⌊(level : ℚ) / N⌋)) ∧
      ((level * N).natAbs ≤ 2 ^ 53 →
        resolveText level ("@actor.level * " ++ toString N) = .made (.integer (level * N)) ∧
        ∀ s, (Formula.product N).Spells (strip s).toList → Formula.IsLegible (strip s).toList →
          resolveText level s = .made (.integer (level * N)))) ∧
    ∀ (n : Int) (s : String), n.natAbs ≤ 2 ^ 53 → SpellsInteger n (strip s).toList →
      resolveText level s = .made (.integer n) := by
  refine ⟨fun N hlevel hpos hN => ?_, fun n s hle h => resolveText_of_spellsInteger h hle⟩
  obtain ⟨htimes, hover⟩ := Formula.parse?_plain hN
  have hquotient := Formula.evaluate_quotient hlevel hpos hN
  refine ⟨?_, fun s h hread => resolveText_of_spells h hread hquotient,
    fun hproduct => ⟨?_, fun s h hread => ?_⟩⟩
  · rw [resolveText_of_parse? (hover hpos), hquotient]
    rfl
  · rw [resolveText_of_parse? htimes, Formula.evaluate_product hproduct]
    rfl
  · exact resolveText_of_spells h hread (Formula.evaluate_product hproduct)

/-- Half of a negative level goes down, and leading zeros do not count. -/
theorem resolveText_exact_of_half_level :
    resolveText (-7) "@actor.level / 2" = .made (.integer (-4)) ∧
    resolveText (-7) "@actor.level * 2" = .made (.integer (-14)) ∧
    resolveText (-7) " +007 " = .made (.integer 7) := by
  obtain ⟨hformulas, hintegers⟩ := resolveText_exact (-7)
  obtain ⟨hhalf, -, hdouble⟩ := hformulas 2 (by decide) (by decide) (by decide)
  refine ⟨?_, (hdouble (by decide)).1, hintegers 7 _ (by decide) ?_⟩
  · rwa [Rat.floor_intCast_div_natCast] at hhalf
  · have hstrip : (strip " +007 ").toList = '+' :: ['0', '0', '7'] := by decide +kernel
    have hdigits : IsNumber ['0', '0', '7'] := by
      refine ⟨by simp, fun c hc => ?_⟩
      simp only [List.mem_cons, List.not_mem_nil, or_false] at hc
      rcases hc with rfl | rfl | rfl <;> decide +kernel
    have hvalue : numberOf ['0', '0', '7'] = 7 := by decide +kernel
    have hspells := SpellsInteger.plus hdigits
    rw [hvalue] at hspells
    rw [hstrip]
    exact hspells

end Operand

end RuleElements
