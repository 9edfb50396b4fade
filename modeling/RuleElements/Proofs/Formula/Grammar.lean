import RuleElements.Proofs.Formula.Numeral

/-!
# The grammar of value texts

A value text, without the blanks around it, is a numeral or a formula over the level: its name,
alone or with a sign of operation and a natural number after it. This module puts formulas together
from their parts, and shows that value texts and no others are read, each as what it spells. The one
exception are formulas with more digits than are read off a text: on these reading fails, and so
does asking whether they are formulas.

Main definitions:
* `Formula.Spells`: the formulas, with any number of digits.
* `Formula.Oversized`, `Formula.IsLegible`: texts with too many digits, and the other ones.

Results:
* `Formula.parse?_eq_some_iff`, `Formula.parse_eq_error_iff`: how formulas are read.
* `Operand.resolveText_grammar`: which texts have no value.
-/

namespace RuleElements

open Text

/-! ## Formulas -/

namespace Formula

variable {cs tail : List Char} {formula : Formula}

/-- What stands after the name of the level: nothing; or the sign of an operation and a natural
number, each with any blanks before it. A divisor is not zero. -/
inductive Follows : Formula → List Char → Prop
  | level : Follows .level []
  | product {before after digits : List Char} (hbefore : AreBlanks before)
    (hafter : AreBlanks after) (hdigits : IsNumber digits) :
    Follows (.product (numberOf digits)) (before ++ '*' :: (after ++ digits))
  | quotient {before after digits : List Char} (hbefore : AreBlanks before)
    (hafter : AreBlanks after) (hdigits : IsNumber digits) (hpos : numberOf digits ≠ 0) :
    Follows (.quotient (numberOf digits)) (before ++ '/' :: (after ++ digits))

/-- **How a formula is written**: the name of the level, and what stands after it. -/
def Spells (formula : Formula) (cs : List Char) : Prop :=
  ∃ tail, cs = "@actor.level".toList ++ tail ∧ formula.Follows tail

/-- What stands after the name of the level and has too many digits to be read, so many: the sign of
an operation and digits, each with any blanks before it. The number that they denote does not
matter, and may be zero. -/
inductive Exceeds : Nat → List Char → Prop
  | digits {before after digits : List Char} {sign : Char} (hbefore : AreBlanks before)
    (hsign : sign = '*' ∨ sign = '/') (hafter : AreBlanks after) (hdigits : AreDigits digits)
    (hmany : digitLimit < digits.length) :
    Exceeds digits.length (before ++ sign :: (after ++ digits))

/-- **How too many digits are written**: the name of the level, and what stands after it. -/
def Oversized (count : Nat) (cs : List Char) : Prop :=
  ∃ tail, cs = "@actor.level".toList ++ tail ∧ Exceeds count tail

/-- **A text without too many digits**, be it a formula or not. -/
def IsLegible (cs : List Char) : Prop := ∀ count, ¬ Oversized count cs

/-- Too many digits make a long text. -/
theorem Oversized.lt_length {count : Nat} (h : Oversized count cs) : digitLimit < cs.length := by
  obtain ⟨tail, rfl, hbefore, hsign, hafter, hdigits, hmany⟩ := h
  simp only [List.length_append, List.length_cons]
  omega

theorem isLegible_of_length_le (h : cs.length ≤ digitLimit) : IsLegible cs :=
  fun _ hmany => Nat.not_lt.mpr h hmany.lt_length

/-! ### Numbers in formulas -/

/-- Digits alone are a number, unless they are too many to be read. -/
theorem readNatural_of_isNumber (h : IsNumber cs) : readNatural cs =
    if digitLimit < cs.length then .error (.tooManyDigits cs.length)
    else .ok (some (numberOf cs)) := by
  obtain ⟨hne, hds⟩ := h
  unfold readNatural
  rw [Decimal.scanDigits_digits hds, ← length_digitsOf hds]
  split
  · rename_i heq
    exact absurd ((digitsOf_eq_nil_iff hds).mp (Prod.ext_iff.mp heq).1) hne
  · rename_i heq
    obtain ⟨rfl, -⟩ := Prod.ext_iff.mp heq
    rfl
  · rename_i hother
    exact absurd rfl (hother _)

/-- Anything else is no number, however many digits there are in it. -/
theorem readNatural_of_not_isNumber (h : ¬ IsNumber cs) : readNatural cs = .ok none := by
  obtain ⟨ds, rest, rfl, hds, hrest⟩ := exists_head_append isDecimal cs
  unfold readNatural
  rw [Decimal.scanDigits_append hds hrest]
  split
  · rfl
  · rename_i digits hne heq
    obtain ⟨rfl, hend⟩ := Prod.ext_iff.mp heq
    obtain rfl : rest = [] := hend
    rw [List.append_nil] at h
    exact absurd ⟨fun hnil => hne (by rw [hnil]; rfl), hds⟩ h
  · rfl

/-- Blanks before a number are skipped. -/
theorem readNatural_append {after digits : List Char} (hafter : AreBlanks after)
    (hdigits : IsNumber digits) :
    readNatural ((after ++ digits).dropWhile isBlank) = readNatural digits := by
  rw [dropWhile_blanks hafter fun c hc =>
    isBlank_of_isDecimal (hdigits.2 c (List.mem_of_head? hc))]

/-- **What is read after a sign**: nothing; or a number with any blanks before it, unless its digits
are too many. -/
theorem readNatural_cases (cs : List Char) : readNatural (cs.dropWhile isBlank) = .ok none ∨
    ∃ after digits, cs = after ++ digits ∧ AreBlanks after ∧ IsNumber digits ∧
      (readNatural (cs.dropWhile isBlank) = .ok (some (numberOf digits)) ∨
        digitLimit < digits.length ∧
          readNatural (cs.dropWhile isBlank) = .error (.tooManyDigits digits.length)) := by
  by_cases hnumber : IsNumber (cs.dropWhile isBlank)
  · refine .inr ⟨cs.takeWhile isBlank, cs.dropWhile isBlank,
      List.takeWhile_append_dropWhile.symm, fun _ hc => List.mem_takeWhile_imp hc, hnumber, ?_⟩
    rw [readNatural_of_isNumber hnumber]
    split
    · rename_i hmany
      exact .inr ⟨hmany, rfl⟩
    · exact .inl rfl
  · exact .inl (readNatural_of_not_isNumber hnumber)

/-! ### What stands after the name of the level -/

theorem parseTail_product {before after digits : List Char} (hbefore : AreBlanks before)
    (hafter : AreBlanks after) (hdigits : IsNumber digits) :
    parseTail (before ++ '*' :: (after ++ digits)) =
      (readNatural digits).map (·.map .product) := by
  unfold parseTail
  rw [if_neg (by simp), dropWhile_blanks hbefore (by simp; decide)]
  simp only [readNatural_append hafter hdigits]

theorem parseTail_quotient {before after digits : List Char} (hbefore : AreBlanks before)
    (hafter : AreBlanks after) (hdigits : IsNumber digits) :
    parseTail (before ++ '/' :: (after ++ digits)) =
      (readNatural digits).map (·.bind quotient?) := by
  unfold parseTail
  rw [if_neg (by simp), dropWhile_blanks hbefore (by simp; decide)]
  simp only [readNatural_append hafter hdigits]

/-- **What is read after the name of the level**: nothing that can be used; or a formula as it is
written; or too many digits. -/
theorem parseTail_cases (tail : List Char) : parseTail tail = .ok none ∨
    (∃ formula : Formula, formula.Follows tail ∧ parseTail tail = .ok (some formula)) ∨
    ∃ count, Exceeds count tail ∧ parseTail tail = .error (.tooManyDigits count) := by
  obtain ⟨before, rest, rfl, hbefore, hrest⟩ := exists_head_append isBlank tail
  unfold parseTail
  rw [dropWhile_blanks hbefore hrest]
  split
  · rename_i hempty
    rw [List.isEmpty_iff.mp hempty]
    exact .inr (.inl ⟨.level, .level, rfl⟩)
  · split
    · rename_i rest _
      rcases readNatural_cases rest with hread | ⟨after, digits, rfl, hafter, hdigits, hread⟩
      · exact .inl (by rw [hread]; rfl)
      · rcases hread with hread | ⟨hmany, hread⟩ <;> rw [hread]
        · exact .inr (.inl ⟨_, .product hbefore hafter hdigits, rfl⟩)
        · exact .inr (.inr ⟨_, .digits hbefore (.inl rfl) hafter hdigits.2 hmany, rfl⟩)
    · rename_i rest _
      rcases readNatural_cases rest with hread | ⟨after, digits, rfl, hafter, hdigits, hread⟩
      · exact .inl (by rw [hread]; rfl)
      · rcases hread with hread | ⟨hmany, hread⟩ <;> rw [hread]
        · by_cases hpos : numberOf digits = 0
          · exact .inl (by rw [hpos]; rfl)
          · refine .inr (.inl ⟨_, .quotient hbefore hafter hdigits hpos, ?_⟩)
            exact congrArg Except.ok (quotient?_eq_some.mpr ⟨hpos, rfl⟩)
        · exact .inr (.inr ⟨_, .digits hbefore (.inr rfl) hafter hdigits.2 hmany, rfl⟩)
    · exact .inl rfl

/-- Too many digits fail to be read. -/
theorem Exceeds.parseTail_eq {count : Nat} (h : Exceeds count tail) :
    parseTail tail = .error (.tooManyDigits count) := by
  obtain ⟨hbefore, hsign, hafter, hdigits, hmany⟩ := h
  have hnumber : IsNumber _ := ⟨List.length_pos_iff.mp (Nat.zero_lt_of_lt hmany), hdigits⟩
  have hread := readNatural_of_isNumber hnumber
  rw [if_pos hmany] at hread
  obtain rfl | rfl := hsign
  · rw [parseTail_product hbefore hafter hnumber, hread]
    rfl
  · rw [parseTail_quotient hbefore hafter hnumber, hread]
    rfl

/-- A formula is read as it is written, unless it has too many digits. -/
theorem Follows.parseTail_eq (h : formula.Follows tail) :
    parseTail tail = .ok (some formula) ∨ ∃ count, Exceeds count tail := by
  cases h with
  | level => exact .inl rfl
  | @product before after digits hbefore hafter hdigits =>
    by_cases hmany : digitLimit < digits.length
    · exact .inr ⟨_, .digits hbefore (.inl rfl) hafter hdigits.2 hmany⟩
    · rw [parseTail_product hbefore hafter hdigits, readNatural_of_isNumber hdigits, if_neg hmany]
      exact .inl rfl
  | @quotient before after digits hbefore hafter hdigits hpos =>
    by_cases hmany : digitLimit < digits.length
    · exact .inr ⟨_, .digits hbefore (.inr rfl) hafter hdigits.2 hmany⟩
    · rw [parseTail_quotient hbefore hafter hdigits, readNatural_of_isNumber hdigits, if_neg hmany]
      exact .inl (congrArg Except.ok (quotient?_eq_some.mpr ⟨hpos, rfl⟩))

theorem parseTail_eq_error_iff {fault : ArithmeticFault} : parseTail tail = .error fault ↔
    ∃ count, fault = .tooManyDigits count ∧ Exceeds count tail := by
  constructor
  · intro h
    rcases parseTail_cases tail with hread | ⟨formula, -, hread⟩ | ⟨count, hmany, hread⟩
    · rw [hread] at h
      cases h
    · rw [hread] at h
      cases h
    · rw [hread] at h
      exact ⟨count, (Except.error.inj h).symm, hmany⟩
  · rintro ⟨count, rfl, hmany⟩
    exact hmany.parseTail_eq

theorem parseTail_eq_some_iff : parseTail tail = .ok (some formula) ↔
    formula.Follows tail ∧ ∀ count, ¬ Exceeds count tail := by
  constructor
  · intro h
    refine ⟨?_, fun count hmany => ?_⟩
    · rcases parseTail_cases tail with hread | ⟨formula', hfollows, hread⟩ | ⟨count, -, hread⟩
      · rw [hread] at h
        cases h
      · rw [hread] at h
        cases h
        exact hfollows
      · rw [hread] at h
        cases h
    · rw [hmany.parseTail_eq] at h
      cases h
  · rintro ⟨hfollows, hfew⟩
    exact hfollows.parseTail_eq.resolve_right fun ⟨count, hmany⟩ => hfew count hmany

/-! ### Formulas in texts -/

/-- The name of the level is skipped. -/
theorem parse_eq_iff {s : String} {outcome : Except ArithmeticFault (Option Formula)}
    (hread : outcome ≠ .ok none) : parse s = outcome ↔
      ∃ tail, (strip s).toList = "@actor.level".toList ++ tail ∧ parseTail tail = outcome := by
  unfold parse
  simp only [← toList_strip]
  change _ ↔ ∃ tail, _ = levelName ++ tail ∧ _
  generalize (strip s).toList = cs
  constructor
  · intro h
    split at h
    · rename_i hname
      obtain ⟨tail, rfl⟩ := List.isPrefixOf_iff_prefix.mp hname
      rw [List.drop_left] at h
      exact ⟨tail, rfl, h⟩
    · exact absurd h.symm hread
  · rintro ⟨tail, rfl, h⟩
    rw [if_pos (List.isPrefixOf_iff_prefix.mpr (List.prefix_append _ _)), List.drop_left]
    exact h

/-- **Too many digits** are what reading a formula fails on, and nothing else. -/
theorem parse_eq_error_iff {s : String} {fault : ArithmeticFault} : parse s = .error fault ↔
    ∃ count, fault = .tooManyDigits count ∧ Oversized count (strip s).toList := by
  rw [parse_eq_iff (by simp)]
  simp only [parseTail_eq_error_iff, Oversized]
  constructor
  · rintro ⟨tail, hname, count, rfl, hmany⟩
    exact ⟨count, rfl, tail, hname, hmany⟩
  · rintro ⟨count, rfl, tail, hname, hmany⟩
    exact ⟨tail, hname, count, rfl, hmany⟩

/-- **Formulas are read** as they are written if they have not too many digits, and nothing else
is. -/
theorem parse?_eq_some_iff {s : String} : parse? s = some formula ↔
    formula.Spells (strip s).toList ∧ IsLegible (strip s).toList := by
  rw [parse?_eq_some, parse_eq_iff (by simp)]
  simp only [parseTail_eq_some_iff, Spells, IsLegible, Oversized]
  constructor
  · rintro ⟨tail, hname, hfollows, hfew⟩
    refine ⟨⟨tail, hname, hfollows⟩, ?_⟩
    rintro count ⟨tail', hname', hmany⟩
    obtain rfl := List.append_cancel_left (hname.symm.trans hname')
    exact hfew count hmany
  · rintro ⟨⟨tail, hname, hfollows⟩, hfew⟩
    exact ⟨tail, hname, hfollows, fun count hmany => hfew count ⟨tail, hname, hmany⟩⟩

/-- **What the reading of a text comes to**: a formula as it is written, nothing, or a failure. -/
theorem accepts_of_isLegible {s : String} (h : IsLegible (strip s).toList) :
    ∃ found, accepts s = .ok found ∧
      (found = true ↔ ∃ formula : Formula, formula.Spells (strip s).toList) := by
  unfold accepts
  cases hparse : parse s with
  | error fault =>
    obtain ⟨count, -, hmany⟩ := parse_eq_error_iff.mp hparse
    exact absurd hmany (h count)
  | ok found =>
    refine ⟨found.isSome, rfl, ?_⟩
    simp only [Option.isSome_iff_exists]
    refine exists_congr fun formula => ?_
    calc found = some formula ↔ parse? s = some formula := by
          rw [parse?_eq_some, hparse, Except.ok.injEq]
      _ ↔ formula.Spells (strip s).toList := by rw [parse?_eq_some_iff, and_iff_left h]

end Formula

/-! ## Value texts -/

/-- **A value text**: a numeral or a formula, and any blanks around it. -/
def IsValueText (v : String) : Prop :=
  IsNumeral (strip v).toList ∨ ∃ formula : Formula, formula.Spells (strip v).toList

/-- The lines that an attempt reports: the reasons why it gives nothing. -/
def Attempt.reports {α : Type} : Attempt α → List LogLine
  | .made _ => []
  | .inert reasons => reasons
  | .failed _ => []

/-- A number made from a double is no double if it is an integer. -/
theorem Number.scaled_ne_of_ofBinary64 {x : Binary64} {s : Bool} {m : Nat} {e : Int}
    (h : ofBinary64 x = .real (.finite s m e)) (k : Int) : Binary64.scaled s m e ≠ k := by
  unfold ofBinary64 at h
  split at h
  · cases h
  · rename_i hintegral
    cases h
    intro hk
    refine hintegral ?_
    show ((Binary64.scaled s m e).den == 1) = true
    rw [hk]
    rfl

namespace Operand

variable {level : Int} {v : String}

/-- A formula gives a number made from a double. -/
theorem exists_ofBinary64_of_evaluate {formula : Formula} {n : Number}
    (h : formula.evaluate level = .ok n) : ∃ x, n = .ofBinary64 x := by
  have hthrough {k : Int} (hk : Formula.throughReal k = .ok n) : ∃ x, n = .ofBinary64 x := by
    obtain ⟨x, -, rfl⟩ := Faulting.map_eq_ok.mp hk
    exact ⟨x, rfl⟩
  cases formula with
  | level => exact hthrough h
  | product factor => exact hthrough h
  | quotient divisor =>
    simp only [Formula.evaluate] at h
    split at h
    · exact hthrough h
    · cases h

/-- Too many digits have no value, and whether they make a formula is not said. -/
theorem resolveText_of_oversized {count : Nat} (h : Formula.Oversized count (strip v).toList) :
    resolveText level v = .failed (.tooManyDigits count) ∧
      Formula.accepts v = .error (.tooManyDigits count) := by
  have hparse : Formula.parse v = .error (.tooManyDigits count) :=
    Formula.parse_eq_error_iff.mpr ⟨count, rfl, h⟩
  refine ⟨resolveText_of_parse_error hparse, ?_⟩
  unfold Formula.accepts
  rw [hparse]
  rfl

/-- **What a text comes to** if its digits are not too many: for a value text a number made from a
double, or a failure because it is too large; for any other one a line about it. -/
theorem resolveText_cases (level : Int) (hread : Formula.IsLegible (strip v).toList) :
    (IsValueText v ∧ ∃ x, resolveText level v = .made (.ofBinary64 x)) ∨
    (IsValueText v ∧ ∃ fault, resolveText level v = .failed fault ∧
      (fault = .integerTooLarge ∨ fault = .quotientTooLarge)) ∨
    (¬ IsValueText v ∧ ∃ text, resolveText level v = .inert [.warning .values text]) := by
  cases hnumeral : readNumeral? (strip v).toList with
  | some n =>
    obtain ⟨negative, d, h, rfl⟩ := readNumeral?_eq_some_iff.mp hnumeral
    refine .inl ⟨.inl ⟨negative, d, h⟩, d.toBinary64 negative, ?_⟩
    unfold resolveText
    rw [← toList_strip, hnumeral]
  | none =>
    cases hformula : Formula.parse? v with
    | some formula =>
      have haccepted : IsValueText v :=
        .inr ⟨formula, (Formula.parse?_eq_some_iff.mp hformula).1⟩
      have hresolve : resolveText level v = .ofArithmetic (formula.evaluate level) :=
        resolveText_of_parse? hformula
      cases hvalue : formula.evaluate level with
      | ok n =>
        obtain ⟨x, rfl⟩ := exists_ofBinary64_of_evaluate hvalue
        exact .inl ⟨haccepted, x, by rw [hresolve, hvalue]; rfl⟩
      | error fault =>
        obtain ⟨rfl, -⟩ := (Formula.evaluate_parsed_eq_error_iff hformula level fault).mp hvalue
        refine .inr (.inl ⟨haccepted, formula.fault, by rw [hresolve, hvalue]; rfl, ?_⟩)
        cases formula <;> simp [Formula.fault]
    | none =>
      have hspelled (formula : Formula) : ¬ formula.Spells (strip v).toList := by
        intro h
        rw [Formula.parse?_eq_some_iff.mpr ⟨h, hread⟩] at hformula
        cases hformula
      have hparse : Formula.parse v = .ok none := by
        cases hparse : Formula.parse v with
        | error fault =>
          obtain ⟨count, -, hmany⟩ := Formula.parse_eq_error_iff.mp hparse
          exact absurd hmany (hread count)
        | ok found =>
          cases found with
          | none => rfl
          | some formula =>
            rw [Formula.parse?_eq_some.mpr hparse] at hformula
            cases hformula
      refine .inr (.inr ⟨?_, "Unsupported formula " ++ quoted v, ?_⟩)
      · rintro (hnumber | ⟨formula, h⟩)
        · obtain ⟨n, hn⟩ := isNumeral_iff.mp hnumber
          rw [hnumeral] at hn
          cases hn
        · exact hspelled formula h
      · unfold resolveText
        rw [← toList_strip, hnumeral]
        simp only [hparse]

/-- One nine more than are read. -/
def manyNines : List Char := List.replicate digitLimit '9' ++ ['9']

theorem length_manyNines : manyNines.length = digitLimit + 1 := by
  rw [manyNines, List.length_append, List.length_replicate, List.length_singleton]

theorem isNumber_manyNines : IsNumber manyNines := by
  refine ⟨List.append_ne_nil_of_right_ne_nil _ (List.cons_ne_nil _ _), fun c hc => ?_⟩
  have hnine : c = '9' :=
    (List.mem_append.mp hc).elim List.eq_of_mem_replicate List.mem_singleton.mp
  rw [hnine]
  decide +kernel

/-- What the nines denote ends with a nine. -/
theorem numberOf_manyNines : numberOf manyNines ≠ 0 := by
  have hnine : digitsOf ['9'] = [9] := by decide +kernel
  have happend : digitsOf manyNines = digitsOf (List.replicate digitLimit '9') ++ [9] := by
    rw [← hnine]
    exact List.filterMap_append
  unfold numberOf Decimal.ofDigits
  rw [happend, List.foldl_append, List.foldl_cons, List.foldl_nil]
  omega

/-- A quotient whose divisor has one digit too many. -/
def longQuotient : String := "@actor.level / " ++ String.ofList manyNines

theorem toList_longQuotient : (strip longQuotient).toList =
    "@actor.level".toList ++ ([' '] ++ '/' :: ([' '] ++ manyNines)) :=
  toList_strip_append (show "@actor.level / ".toList = '@' :: "actor.level / ".toList from rfl)
    (by decide) isNumber_manyNines

theorem oversized_longQuotient :
    Formula.Oversized (digitLimit + 1) (strip longQuotient).toList := by
  have hblank : AreBlanks [' '] := List.forall_mem_singleton.mpr (by decide)
  have hmany : digitLimit < manyNines.length := by rw [length_manyNines]; omega
  refine ⟨_, toList_longQuotient, ?_⟩
  rw [← length_manyNines]
  exact .digits hblank (.inr rfl) hblank isNumber_manyNines.2 hmany

/-- **Exactly the grammar has a value, but for too many digits.** A text that has the form of a
product or a quotient and more digits than are read has no value, and it is not said whether it is a
formula: both fail for the number of its digits, whatever number they denote. Take any other text.
If the arithmetic does not fail, it has no value if and only if, without the blanks around it, it is
neither a numeral nor a formula; and the arithmetic fails only because a number is too large. A text
without a value is warned about once, and nothing is said about the others. It counts as a formula
if and only if it is written as one. And no value of it is a double that is an integer. -/
theorem resolveText_grammar (level : Int) (v : String) :
    (∀ count, Formula.Oversized count (strip v).toList →
      resolveText level v = .failed (.tooManyDigits count) ∧
        Formula.accepts v = .error (.tooManyDigits count)) ∧
    ((∀ count, ¬ Formula.Oversized count (strip v).toList) →
      ((∀ fault, resolveText level v ≠ .failed fault) →
        ((resolveText level v).result? = none ↔
          ¬ (IsNumeral (strip v).toList ∨
            ∃ formula : Formula, formula.Spells (strip v).toList))) ∧
      (∀ fault, resolveText level v = .failed fault →
        fault = .integerTooLarge ∨ fault = .quotientTooLarge) ∧
      (IsValueText v → (resolveText level v).reports = []) ∧
      (¬ IsValueText v → ∃ text, (resolveText level v).reports = [.warning .values text]) ∧
      (∃ found, Formula.accepts v = .ok found ∧
        (found = true ↔ ∃ formula : Formula, formula.Spells (strip v).toList)) ∧
      ∀ s m e, resolveText level v = .made (.real (.finite s m e)) →
        ∀ k : Int, Binary64.scaled s m e ≠ k) := by
  refine ⟨fun count => resolveText_of_oversized, fun hread => ?_⟩
  have hformula := Formula.accepts_of_isLegible hread
  change (_ → (_ ↔ ¬ IsValueText v)) ∧ _
  rcases resolveText_cases level hread with ⟨hvalue, x, hmade⟩ |
    ⟨hvalue, fault, hfailed, hfault⟩ | ⟨hvalue, text, hinert⟩
  · rw [hmade]
    refine ⟨fun _ => ?_, by simp, fun _ => rfl, fun h => absurd hvalue h, hformula, ?_⟩
    · simp [Attempt.result?, hvalue]
    · intro s m e h
      exact Number.scaled_ne_of_ofBinary64 (Attempt.made.inj h)
  · rw [hfailed]
    refine ⟨fun h => absurd rfl (h fault), ?_, fun _ => rfl, fun h => absurd hvalue h, hformula,
      by simp⟩
    intro fault' h
    rw [← Attempt.failed.inj h]
    exact hfault
  · rw [hinert]
    refine ⟨fun _ => ?_, by simp, fun h => absurd h hvalue, fun _ => ⟨text, rfl⟩, hformula, by simp⟩
    simp [Attempt.result?, hvalue]

/-- The grammar does not ask how many digits there are, and reading does. A quotient by a number of
4301 digits is written as a formula, and no number that is too large comes up; yet it has no value,
and it does not count as a formula either. -/
theorem resolveText_fails_on_longQuotient :
    (¬ ∀ (level : Int) (v : String),
      (∀ fault, resolveText level v = .failed fault →
        fault ≠ .integerTooLarge ∧ fault ≠ .quotientTooLarge) →
      ((resolveText level v).result? = none ↔
        ¬ (IsNumeral (strip v).toList ∨
          ∃ formula : Formula, formula.Spells (strip v).toList))) ∧
    ¬ ∀ v : String, Formula.accepts v = .ok true ↔
      ∃ formula : Formula, formula.Spells (strip v).toList := by
  have hblank : AreBlanks [' '] := List.forall_mem_singleton.mpr (by decide)
  have hspelled : (Formula.quotient (numberOf manyNines)).Spells (strip longQuotient).toList :=
    ⟨_, toList_longQuotient, .quotient hblank hblank isNumber_manyNines numberOf_manyNines⟩
  obtain ⟨hfailed, hrefused⟩ :
      resolveText 1 longQuotient = .failed (.tooManyDigits (digitLimit + 1)) ∧
        Formula.accepts longQuotient = .error (.tooManyDigits (digitLimit + 1)) :=
    resolveText_of_oversized oversized_longQuotient
  constructor
  · intro hclaim
    have hvalue := hclaim 1 longQuotient fun fault h => by
      rw [hfailed] at h
      cases h
      exact ⟨nofun, nofun⟩
    exact hvalue.mp (by rw [hfailed]; rfl) (.inr ⟨_, hspelled⟩)
  · intro hclaim
    have haccepted := (hclaim longQuotient).mpr ⟨_, hspelled⟩
    rw [hrefused] at haccepted
    cases haccepted

/-- A numeral may end with a point, in digits of any script; a divisor of zeros makes no formula;
and one of 4301 digits cannot be read. -/
theorem resolveText_grammar_of_zero_divisor :
    (Formula.Oversized (digitLimit + 1) (strip longQuotient).toList ∧
      resolveText 3 longQuotient = .failed (.tooManyDigits (digitLimit + 1))) ∧
    Formula.IsLegible (strip " +١٢. ").toList ∧
      (∀ fault, resolveText 3 " +١٢. " ≠ .failed fault) ∧ IsValueText " +١٢. " ∧
      (resolveText 3 " +١٢. ").result? = some (.integer 12) ∧
      (resolveText 3 " +١٢. ").reports = [] ∧
    Formula.IsLegible (strip "@actor.level / 00").toList ∧
      (∀ fault, resolveText 3 "@actor.level / 00" ≠ .failed fault) ∧
      ¬ IsValueText "@actor.level / 00" ∧
      ∃ text, (resolveText 3 "@actor.level / 00").reports = [.warning .values text] := by
  have hvalue : (resolveText 3 " +١٢. ").result? = some (.integer 12) := by decide +kernel
  have hnone : (resolveText 3 "@actor.level / 00").result? = none := by decide +kernel
  have hline : (resolveText 3 "@actor.level / 00").reports.length = 1 := by decide +kernel
  have hnumeral : ∀ fault, resolveText 3 " +١٢. " ≠ .failed fault := by
    intro fault hfailed
    rw [hfailed] at hvalue
    cases hvalue
  have hfraction : ∀ fault, resolveText 3 "@actor.level / 00" ≠ .failed fault := by
    intro fault hfailed
    rw [hfailed] at hline
    cases hline
  have hshort : Formula.IsLegible (strip " +١٢. ").toList :=
    Formula.isLegible_of_length_le (by decide +kernel)
  have hzeros : Formula.IsLegible (strip "@actor.level / 00").toList :=
    Formula.isLegible_of_length_le (by decide +kernel)
  obtain ⟨haccepted, -, hsilent, -⟩ := (resolveText_grammar 3 " +١٢. ").2 hshort
  obtain ⟨hrefused, -, -, hwarned, -⟩ := (resolveText_grammar 3 "@actor.level / 00").2 hzeros
  have hspelled : IsValueText " +١٢. " := by
    by_contra hother
    rw [(haccepted hnumeral).mpr hother] at hvalue
    cases hvalue
  have hunspelled : ¬ IsValueText "@actor.level / 00" := (hrefused hfraction).mp hnone
  exact ⟨⟨oversized_longQuotient,
      ((resolveText_grammar 3 longQuotient).1 _ oversized_longQuotient).1⟩,
    hshort, hnumeral, hspelled, hvalue, hsilent hspelled,
    hzeros, hfraction, hunspelled, hwarned hunspelled⟩

end Operand

end RuleElements
