import Mathlib.Data.List.TakeWhile
import RuleElements.Proofs.Numeric.Overflow

/-!
# Which operands have a value

An operand has a value at some level exactly if it is a number, or a text that spells a plain
decimal or a formula over the level. At level zero every formula has one, and no formula ever comes
to an infinity or a NaN. A text has no value either because it is none of these, or because its
digits are too many to be read. The texts that have a value, or too many digits, hold no brace.

Main definitions:
* `Operand.constant?`, `Operand.formula?`: the two ways in which an operand has a value.
* `Operand.isReadable`: the operands that have a value.
* `Operand.readFault?`: why an operand fails to be read.
* `Number.isFinite`: numbers that can be cut down to integers.

Results:
* `Operand.exists_resolve_iff`, `Operand.resolve_zero`: when an operand has a value.
* `Formula.isFinite_evaluate`: a formula comes to a finite number.
* `Operand.brace_not_mem`: a text that has a value holds no brace.
-/

namespace RuleElements

/-! ## Finite numbers -/

/-- Whether a number is neither infinite nor a NaN. -/
def Number.isFinite : Number → Bool
  | .integer _ => true
  | .real (.finite _ _ _) => true
  | .real (.infinite _) => false
  | .real .nan => false

/-- The finite numbers are those that can be cut down to an integer. -/
theorem Number.exists_truncate_iff {n : Number} :
    (∃ m, n.truncate = .ok m) ↔ n.isFinite = true := by
  cases n with
  | integer n => exact ⟨fun _ => rfl, fun _ => ⟨n, rfl⟩⟩
  | real x => cases x <;> simp [truncate, isFinite]

theorem Number.isFinite_ofBinary64 {x : Binary64} (hinfinite : ∀ s, x ≠ .infinite s)
    (hnan : x ≠ .nan) : (ofBinary64 x).isFinite = true := by
  cases x with
  | infinite s => exact absurd rfl (hinfinite s)
  | nan => exact absurd rfl hnan
  | finite s m e =>
    unfold ofBinary64
    split <;> rfl

namespace Formula

/-- An integer by way of a double-precision number is finite. -/
theorem isFinite_throughReal {n : Int} {a : Number} (h : throughReal n = .ok a) :
    a.isFinite = true := by
  unfold throughReal Binary64.ofInt? at h
  split at h
  · cases h
  · rename_i x hinfinite
    cases h
    exact Number.isFinite_ofBinary64 hinfinite (Binary64.roundFraction_ne_nan _ _ _)

/-- **A formula comes to a finite number**, if it does not fail. -/
theorem isFinite_evaluate {formula : Formula} {level : Int} {a : Number}
    (h : formula.evaluate level = .ok a) : a.isFinite = true := by
  cases formula with
  | level => exact isFinite_throughReal h
  | product factor => exact isFinite_throughReal h
  | quotient divisor =>
    unfold evaluate at h
    simp only at h
    split at h
    · exact isFinite_throughReal h
    · cases h

/-- **At level zero a formula that is spelled has a value.** -/
theorem exists_evaluate_zero {s : String} {formula : Formula} (h : parse? s = some formula) :
    ∃ a, formula.evaluate 0 = .ok a := by
  cases hvalue : formula.evaluate 0 with
  | ok a => exact ⟨a, rfl⟩
  | error fault =>
    obtain ⟨-, hlarge⟩ := (evaluate_parsed_eq_error_iff h 0 fault).mp hvalue
    have hbound := Binary64.overflowBound_pos
    cases formula with
    | level => exact absurd hlarge (Nat.not_le.mpr hbound)
    | product factor =>
      have hzero : (0 * (factor : Int)).natAbs = 0 := by rw [zero_mul, Int.natAbs_zero]
      exact absurd (hzero ▸ hlarge) (Nat.not_le.mpr hbound)
    | quotient divisor =>
      have hproduct := Nat.mul_pos (parse?_quotient_pos h) hbound
      exact absurd hlarge (Nat.not_le.mpr hproduct)

end Formula

/-! ## Operands that have a value -/

namespace Operand

/-- The number that an operand is at every level. -/
def constant? : Operand → Option Number
  | .number n => some n
  | .text s => readNumeral? (Text.trimWhere Text.isBlank s.toList)

/-- The formula that an operand spells. -/
def formula? : Operand → Option Formula
  | .number _ => none
  | .text s => Formula.parse? s

/-- **Whether an operand can be read**: as a number, or as a formula. -/
def isReadable (value : Operand) : Bool := value.constant?.isSome || value.formula?.isSome

/-- Why an operand fails to be read: the digits of a formula are too many. -/
def readFault? : Operand → Option ArithmeticFault
  | .number _ => none
  | .text s =>
    match Formula.parse s with
    | .ok _ => none
    | .error fault => some fault

variable {value : Operand} {level : Int}

theorem resolve_of_constant {n : Number} (h : value.constant? = some n) :
    value.resolve level = .made n := by
  cases value with
  | number m =>
    cases h
    rfl
  | text s =>
    show resolveText level s = _
    unfold resolveText
    rw [show readNumeral? (Text.trimWhere Text.isBlank s.toList) = some n from h]

theorem resolve_of_formula {formula : Formula} (h : value.formula? = some formula) :
    value.resolve level = .ofArithmetic (formula.evaluate level) := by
  cases value with
  | number m => cases h
  | text s => exact resolveText_of_parse? h

theorem readFault?_text_eq_some {s : String} {fault : ArithmeticFault} :
    (text s).readFault? = some fault ↔ Formula.parse s = .error fault := by
  unfold readFault?
  cases hparse : Formula.parse s <;> simp [hparse]

/-- An operand that fails to be read fails to have a value. -/
theorem resolve_of_readFault? {fault : ArithmeticFault} (h : value.readFault? = some fault) :
    value.resolve level = .failed fault := by
  cases value with
  | number m => cases h
  | text s => exact resolveText_of_parse_error (readFault?_text_eq_some.mp h)

/-- **An operand that cannot be read** is reported, unless it fails to be read. -/
theorem resolve_of_unreadable (level : Int) (h : value.isReadable = false)
    (hfault : value.readFault? = none) : ∃ reasons, value.resolve level = .inert reasons := by
  unfold isReadable at h
  rw [Bool.or_eq_false_iff, Option.isSome_eq_false_iff, Option.isSome_eq_false_iff,
    Option.isNone_iff_eq_none, Option.isNone_iff_eq_none] at h
  obtain ⟨hconstant, hformula⟩ := h
  cases value with
  | number m => cases hconstant
  | text s =>
    refine ⟨[.warning .values ("Unsupported formula " ++ Text.quoted s)], ?_⟩
    show resolveText level s = _
    unfold resolveText
    rw [show readNumeral? (Text.trimWhere Text.isBlank s.toList) = none from hconstant]
    cases hparse : Formula.parse s with
    | error fault =>
      rw [readFault?_text_eq_some.mpr hparse] at hfault
      cases hfault
    | ok found =>
      cases found with
      | none => rfl
      | some formula =>
        rw [show (text s).formula? = some formula from Formula.parse?_eq_some.mpr hparse]
          at hformula
        cases hformula

/-- **The value of an operand that can be read**, at level zero: the number that it is at every
level, or what a formula comes to. -/
theorem resolve_zero (h : value.isReadable = true) : ∃ n, value.resolve 0 = .made n ∧
    (value.constant? = some n ∨ value.constant? = none ∧ n.isFinite = true) := by
  cases hconstant : value.constant? with
  | some n => exact ⟨n, resolve_of_constant hconstant, .inl rfl⟩
  | none =>
    unfold isReadable at h
    rw [hconstant, Option.isSome_none, Bool.false_or] at h
    obtain ⟨formula, hformula⟩ := Option.isSome_iff_exists.mp h
    cases value with
    | number m => cases hformula
    | text s =>
      obtain ⟨n, hn⟩ := Formula.exists_evaluate_zero hformula
      refine ⟨n, ?_, .inr ⟨rfl, Formula.isFinite_evaluate hn⟩⟩
      rw [resolve_of_formula hformula, hn]
      rfl

theorem readFault?_of_isReadable (h : value.isReadable = true) : value.readFault? = none := by
  obtain ⟨n, hn, -⟩ := resolve_zero h
  rw [Option.eq_none_iff_forall_ne_some]
  intro fault hfault
  rw [resolve_of_readFault? hfault] at hn
  cases hn

/-- **An operand has a value at some level** exactly if it can be read. -/
theorem exists_resolve_iff : (∃ level n, value.resolve level = .made n) ↔
    value.isReadable = true := by
  constructor
  · rintro ⟨level, n, h⟩
    by_contra hread
    cases hfault : value.readFault? with
    | some fault =>
      rw [resolve_of_readFault? hfault] at h
      cases h
    | none =>
      obtain ⟨reasons, hinert⟩ := resolve_of_unreadable level (Bool.not_eq_true _ ▸ hread) hfault
      rw [hinert] at h
      cases h
  · intro h
    obtain ⟨n, hn, -⟩ := resolve_zero h
    exact ⟨0, n, hn⟩

end Operand

/-! ## The characters of numerals and formulas -/

/-- A character that is no part of numerals: no digit, no sign and no point. -/
structure Foreign (c : Char) : Prop where
  digit : Text.decimalValue? c = none
  plus : c ≠ '+'
  minus : c ≠ '-'
  point : c ≠ '.'

theorem mem_dropWhile_of_false {p : Char → Bool} {c : Char} {cs : List Char} (hc : p c = false)
    (h : c ∈ cs) : c ∈ cs.dropWhile p := by
  rw [← List.takeWhile_append_dropWhile (p := p) (l := cs), List.mem_append] at h
  rcases h with htaken | hleft
  · rw [List.mem_takeWhile_imp htaken] at hc
    cases hc
  · exact hleft

/-- A character that is not trimmed stays. -/
theorem Text.mem_trimWhere {p : Char → Bool} {c : Char} {cs : List Char} (hc : p c = false)
    (h : c ∈ cs) : c ∈ trimWhere p cs := by
  unfold trimWhere
  rw [List.mem_reverse]
  exact mem_dropWhile_of_false hc (List.mem_reverse.mpr (mem_dropWhile_of_false hc h))

namespace Decimal

variable {value? : Char → Option Nat} {c : Char}

/-- What is no digit is left over by reading digits. -/
theorem mem_scanDigits (hc : value? c = none) : ∀ {cs : List Char}, c ∈ cs →
    c ∈ (scanDigits value? cs).2
  | d :: cs, h => by
    unfold scanDigits
    cases hd : value? d with
    | none => exact h
    | some digit =>
      rcases List.mem_cons.mp h with rfl | hrest
      · rw [hc] at hd
        cases hd
      · exact mem_scanDigits hc hrest

/-- Where there is no exponent nothing is read. -/
theorem scanExponent_none {cs rest : List Char} (h : scanExponent value? cs = (none, rest)) :
    rest = cs := by
  unfold scanExponent at h
  simp only at h
  repeat' split at h
  all_goals first | (cases h; rfl) | cases h

theorem mem_scanExponent {cs : List Char} (h : (scanExponent value? cs).1 = none) (hmem : c ∈ cs) :
    c ∈ (scanExponent value? cs).2 := by
  have hnone : scanExponent value? cs = (none, (scanExponent value? cs).2) := Prod.ext h rfl
  rwa [scanExponent_none hnone]

/-- What is neither digit nor point is left over by reading a decimal without an exponent. -/
theorem mem_scan {cs rest : List Char} {d : Decimal} (h : scan value? cs = (d, rest))
    (hexponent : d.exponent = none) (hc : value? c = none) (hpoint : c ≠ '.') (hmem : c ∈ cs) :
    c ∈ rest := by
  have hwhole := mem_scanDigits hc hmem
  unfold scan at h
  generalize scanDigits value? cs = whole at *
  obtain ⟨digits, after⟩ := whole
  simp only at h hwhole
  split at h
  · have hrest := (List.mem_cons.mp hwhole).resolve_left hpoint
    cases h
    exact mem_scanExponent hexponent (mem_scanDigits hc hrest)
  · cases h
    exact mem_scanExponent hexponent hwhole

/-- What is no sign is left over by reading a sign. -/
theorem mem_scanSign (hplus : c ≠ '+') (hminus : c ≠ '-') {cs : List Char} (h : c ∈ cs) :
    c ∈ (scanSign cs).2 := by
  unfold scanSign
  split
  · exact (List.mem_cons.mp h).resolve_left hplus
  · exact (List.mem_cons.mp h).resolve_left hminus
  · exact h

end Decimal

/-- A plain decimal holds no foreign character. -/
theorem not_mem_of_readNumeral? {c : Char} (hc : Foreign c) {cs : List Char} {n : Number}
    (h : readNumeral? cs = some n) : c ∉ cs := by
  intro hmem
  have hunsigned := Decimal.mem_scanSign hc.plus hc.minus hmem
  unfold readNumeral? at h
  simp only at h
  split at h
  · rename_i d hscan
    split at h
    · rename_i hparts
      rw [Bool.and_eq_true, Option.isNone_iff_eq_none] at hparts
      have hleft := Decimal.mem_scan hscan hparts.2 hc.digit hc.point hunsigned
      cases hleft
    · cases h
  · cases h

/-- A foreign character stands nowhere in a natural number, however many digits it has. -/
theorem Formula.not_mem_of_readNatural {c : Char} (hc : Foreign c) {cs : List Char}
    (h : readNatural cs ≠ .ok none) : c ∉ cs := by
  intro hmem
  have hleft := Decimal.mem_scanDigits hc.digit hmem
  unfold readNatural at h
  split at h
  · exact h rfl
  · rename_i digits hscan
    rw [hscan] at hleft
    cases hleft
  · exact h rfl

/-- A formula, of any number of digits, holds no foreign character but those of the name of the
level, the signs of its operations, and blanks. -/
theorem Formula.not_mem_of_parse {c : Char} (hc : Foreign c) (hblank : Text.isBlank c = false)
    (hname : c ∉ levelName) (htimes : c ≠ '*') (hover : c ≠ '/') {s : String}
    (h : parse s ≠ .ok none) : c ∉ s.toList := by
  have hnumber {f : Option Nat → Option Formula} (hf : f none = none) {rest : List Char}
      (h : (readNatural (rest.dropWhile Text.isBlank)).map f ≠ .ok none) : c ∉ rest := by
    intro hmem
    refine not_mem_of_readNatural hc (fun hnone => h ?_) (mem_dropWhile_of_false hblank hmem)
    rw [hnone]
    exact congrArg _ hf
  intro hmem
  replace hmem := Text.mem_trimWhere hblank hmem
  unfold parse at h
  simp only at h
  split at h
  · rename_i hstarts
    obtain ⟨rest, hrest⟩ := List.isPrefixOf_iff_prefix.mp hstarts
    rw [← hrest, List.mem_append] at hmem
    rw [← hrest, List.drop_left] at h
    have htail := mem_dropWhile_of_false hblank (hmem.resolve_left hname)
    unfold parseTail at h
    split at h
    · rename_i hempty
      rw [List.isEmpty_iff.mp hempty] at hmem
      exact hmem.elim hname List.not_mem_nil
    · split at h
      · rename_i after hafter
        rw [hafter] at htail
        exact hnumber rfl h ((List.mem_cons.mp htail).resolve_left htimes)
      · rename_i after hafter
        rw [hafter] at htail
        exact hnumber rfl h ((List.mem_cons.mp htail).resolve_left hover)
      · exact h rfl
  · exact h rfl

theorem foreign_brace : Foreign '\x7b' where
  digit := by decide +kernel
  plus := by decide
  minus := by decide
  point := by decide

theorem brace_not_blank : Text.isBlank '\x7b' = false := by decide

/-- A formula, of any number of digits, holds no brace. -/
theorem Formula.brace_not_mem {s : String} (h : parse s ≠ .ok none) : '\x7b' ∉ s.toList :=
  not_mem_of_parse foreign_brace brace_not_blank (by decide) (by decide) (by decide) h

/-- **A text that has a value holds no brace.** -/
theorem Operand.brace_not_mem {s : String} (h : (Operand.text s).isReadable = true) :
    '\x7b' ∉ s.toList := by
  unfold isReadable at h
  rw [Bool.or_eq_true, Option.isSome_iff_exists, Option.isSome_iff_exists] at h
  rcases h with ⟨n, hconstant⟩ | ⟨formula, hformula⟩
  · exact fun hmem =>
      not_mem_of_readNumeral? foreign_brace hconstant (Text.mem_trimWhere brace_not_blank hmem)
  · refine Formula.brace_not_mem ?_
    rw [Formula.parse?_eq_some.mp hformula]
    nofun

end RuleElements
