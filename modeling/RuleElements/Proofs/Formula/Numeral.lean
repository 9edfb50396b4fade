import RuleElements.Proofs.Faulting
import RuleElements.Proofs.Numeric.Operand

/-!
# Numerals

A number in a text is put together from digits of any script. A plain decimal is digits, which may
be followed by a point and further digits, or a point and digits; a numeral is a plain decimal with
an optional sign. This module shows that these and no other texts are read as numerals, each as the
double nearest to what it spells.

Main definitions:
* `Text.IsNumber`, `Text.numberOf`: one or more digits, and the number that they denote.
* `Decimal.Spells`, `IsNumeral`: the plain decimals, and the numerals.

Results:
* `Decimal.scan_eq_iff`: how decimals are read.
* `readNumeral?_eq_some_iff`: how numerals are read.
-/

namespace RuleElements

/-! ## Digits and blanks -/

namespace Text

/-- Decimal digits of any script, or nothing. -/
def AreDigits (cs : List Char) : Prop := ∀ c ∈ cs, isDecimal c = true

/-- Blanks, or nothing. -/
def AreBlanks (cs : List Char) : Prop := ∀ c ∈ cs, isBlank c = true

/-- **One or more decimal digits** of any script. -/
def IsNumber (cs : List Char) : Prop := cs ≠ [] ∧ AreDigits cs

/-- The values of the digits among some characters. -/
def digitsOf (cs : List Char) : List Nat := cs.filterMap decimalValue?

/-- **The number that digits denote.** -/
def numberOf (cs : List Char) : Nat := Decimal.ofDigits (digitsOf cs)

variable {cs : List Char}

theorem toList_strip (s : String) : (strip s).toList = trimWhere isBlank s.toList :=
  String.toList_ofList

/-- A digit is no blank. -/
theorem isBlank_of_isDecimal {c : Char} (h : isDecimal c = true) : isBlank c = false := by
  have htable : ∀ first ∈ decimalZeros, ∀ k < 10, isBlank (Char.ofNat (first + k)) = false := by
    decide +kernel
  obtain ⟨n, hn⟩ := Option.isSome_iff_exists.mp h
  obtain ⟨first, hfirst, rfl⟩ := Option.map_eq_some_iff.mp hn
  have hrow := List.find?_some hfirst
  rw [Bool.and_eq_true, decide_eq_true_eq, decide_eq_true_eq] at hrow
  have hc : Char.ofNat (first + (c.toNat - first)) = c := by
    rw [Nat.add_sub_cancel' hrow.1, Char.ofNat_toNat]
  rw [← hc]
  exact htable first (List.mem_of_find?_eq_some hfirst) _ (by omega)

theorem length_digitsOf (h : AreDigits cs) : (digitsOf cs).length = cs.length := by
  induction cs with
  | nil => rfl
  | cons c cs ih =>
    obtain ⟨hc, hcs⟩ := List.forall_mem_cons.mp h
    obtain ⟨n, hn⟩ := Option.isSome_iff_exists.mp hc
    have hcons : digitsOf (c :: cs) = n :: digitsOf cs := List.filterMap_cons_some hn
    rw [hcons, List.length_cons, ih hcs, List.length_cons]

theorem digitsOf_eq_nil_iff (h : AreDigits cs) : digitsOf cs = [] ↔ cs = [] := by
  cases cs with
  | nil => exact iff_of_true rfl rfl
  | cons c cs =>
    obtain ⟨n, hn⟩ := Option.isSome_iff_exists.mp (h c List.mem_cons_self)
    simp [digitsOf, hn]

/-- **Characters of a kind at the head** of some characters end where another one begins. -/
theorem exists_head_append (p : Char → Bool) (cs : List Char) :
    ∃ head rest, cs = head ++ rest ∧ (∀ c ∈ head, p c = true) ∧ ∀ c ∈ rest.head?, p c = false := by
  refine ⟨cs.takeWhile p, cs.dropWhile p, List.takeWhile_append_dropWhile.symm,
    fun _ hc => List.mem_takeWhile_imp hc, fun c hc => ?_⟩
  have := List.head?_dropWhile_not p cs
  rw [Option.mem_def.mp hc] at this
  simpa using this

/-- What begins with no blank begins where the blanks before it end. -/
theorem dropWhile_blanks {before rest : List Char} (hbefore : AreBlanks before)
    (hrest : ∀ c ∈ rest.head?, isBlank c = false) :
    (before ++ rest).dropWhile isBlank = rest := by
  rw [List.dropWhile_append_of_pos hbefore]
  cases rest with
  | nil => rfl
  | cons c rest => rw [List.dropWhile_cons_of_neg (by simp [hrest c rfl])]

/-- What begins with no blank and ends with a number has no blanks around it. -/
theorem toList_strip_append {start : String} {c : Char} {rest digits : List Char}
    (hstart : start.toList = c :: rest) (hc : isBlank c = false) (hdigits : IsNumber digits) :
    (strip (start ++ String.ofList digits)).toList = start.toList ++ digits := by
  have htext : (start ++ String.ofList digits).toList = start.toList ++ digits := by
    rw [String.toList_append, String.toList_ofList]
  rw [strip_eq_self (fun x hx => ?_) (fun x hx => ?_), htext]
  · rw [htext, hstart] at hx
    cases hx
    exact hc
  · rw [htext, List.getLast?_append_of_ne_nil _ hdigits.1] at hx
    exact isBlank_of_isDecimal (hdigits.2 x (List.mem_of_getLast? hx))

end Text

open Text

/-! ## Decimals -/

namespace Decimal

variable {cs ds fs rest : List Char} {d : Decimal}

/-- **Reading digits** stops at the first character that is none. -/
theorem scanDigits_append : ∀ {ds : List Char}, AreDigits ds →
    (∀ c ∈ rest.head?, isDecimal c = false) →
      scanDigits decimalValue? (ds ++ rest) = (digitsOf ds, rest)
  | [], _, hrest => by
    cases rest with
    | nil => rfl
    | cons c rest =>
      have hc : decimalValue? c = none := by simpa [isDecimal] using hrest c rfl
      simp [scanDigits, digitsOf, hc]
  | c :: ds, hds, hrest => by
    obtain ⟨hc, hds⟩ := List.forall_mem_cons.mp hds
    obtain ⟨digit, hdigit⟩ := Option.isSome_iff_exists.mp hc
    simp [scanDigits, digitsOf, hdigit, scanDigits_append hds hrest]

theorem scanDigits_digits (hds : AreDigits ds) :
    scanDigits decimalValue? ds = (digitsOf ds, []) := by
  have h : scanDigits decimalValue? (ds ++ []) = (digitsOf ds, []) :=
    scanDigits_append hds (by simp)
  rwa [List.append_nil] at h

theorem isDecimal_point : isDecimal '.' = false := by decide +kernel

theorem scan_whole (hds : AreDigits ds) (hrest : ∀ c ∈ rest.head?, isDecimal c = false)
    (hpoint : rest.head? ≠ some '.') : scan decimalValue? (ds ++ rest) =
      (⟨digitsOf ds, none, (scanExponent decimalValue? rest).1⟩,
        (scanExponent decimalValue? rest).2) := by
  unfold scan
  rw [scanDigits_append hds hrest]
  simp only
  split
  · exact absurd rfl hpoint
  · rfl

theorem scan_pointed (hds : AreDigits ds) (hfs : AreDigits fs)
    (hrest : ∀ c ∈ rest.head?, isDecimal c = false) :
    scan decimalValue? (ds ++ '.' :: (fs ++ rest)) =
      (⟨digitsOf ds, some (digitsOf fs), (scanExponent decimalValue? rest).1⟩,
        (scanExponent decimalValue? rest).2) := by
  unfold scan
  rw [scanDigits_append hds (by simpa using isDecimal_point)]
  simp only
  rw [scanDigits_append hfs hrest]

/-- **How a plain decimal is written**: digits, which may be followed by a point and further digits;
or a point and digits. -/
inductive Spells : Decimal → List Char → Prop
  | whole {ds : List Char} (hds : IsNumber ds) : Spells ⟨digitsOf ds, none, none⟩ ds
  | pointed {ds fs : List Char} (hds : IsNumber ds) (hfs : AreDigits fs) :
    Spells ⟨digitsOf ds, some (digitsOf fs), none⟩ (ds ++ '.' :: fs)
  | fraction {fs : List Char} (hfs : IsNumber fs) :
    Spells ⟨[], some (digitsOf fs), none⟩ ('.' :: fs)

/-- **A plain decimal is read** to its end exactly as it is written. -/
theorem scan_eq_iff : scan decimalValue? cs = (d, []) ∧ d.hasDigits = true ∧ d.exponent = none ↔
    d.Spells cs := by
  constructor
  · rintro ⟨hscan, hdigits, hexponent⟩
    obtain ⟨ds, rest, rfl, hds, hrest⟩ := exists_head_append isDecimal cs
    by_cases hpoint : rest.head? = some '.'
    · obtain ⟨after, rfl⟩ := List.head?_eq_some_iff.mp hpoint
      obtain ⟨fs, rest, rfl, hfs, hrest⟩ := exists_head_append isDecimal after
      rw [scan_pointed hds hfs hrest] at hscan
      obtain ⟨rfl, hend⟩ := Prod.ext_iff.mp hscan
      obtain rfl := scanExponent_none (Prod.ext hexponent hend)
      rw [List.append_nil]
      by_cases hwhole : ds = []
      · subst hwhole
        refine .fraction ⟨fun hnil => ?_, hfs⟩
        rw [hnil] at hdigits
        cases hdigits
      · exact .pointed ⟨hwhole, hds⟩ hfs
    · rw [scan_whole hds hrest hpoint] at hscan
      obtain ⟨rfl, hend⟩ := Prod.ext_iff.mp hscan
      obtain rfl := scanExponent_none (Prod.ext hexponent hend)
      rw [List.append_nil]
      refine .whole ⟨fun hnil => ?_, hds⟩
      rw [hnil] at hdigits
      cases hdigits
  · intro h
    have hend : ∀ c ∈ ([] : List Char).head?, isDecimal c = false := by simp
    cases h with
    | @whole ds hds =>
      have hscan := scan_whole hds.2 hend (by simp)
      rw [List.append_nil] at hscan
      refine ⟨hscan, ?_, rfl⟩
      simp [hasDigits, digitsOf_eq_nil_iff hds.2, hds.1]
    | @pointed ds fs hds hfs =>
      have hscan := scan_pointed hds.2 hfs hend
      rw [List.append_nil] at hscan
      refine ⟨hscan, ?_, rfl⟩
      simp [hasDigits, digitsOf_eq_nil_iff hds.2, hds.1]
    | @fraction fs hfs =>
      have hnone : AreDigits [] := fun _ hc => absurd hc List.not_mem_nil
      have hscan := scan_pointed hnone hfs.2 hend
      rw [List.append_nil] at hscan
      refine ⟨hscan, ?_, rfl⟩
      simp [hasDigits, digitsOf_eq_nil_iff hfs.2, hfs.1]

end Decimal

/-- **How a numeral is written**: a plain decimal, which may have a sign. -/
inductive SpellsSigned : Bool → Decimal → List Char → Prop
  | plain {d : Decimal} {cs : List Char} (h : d.Spells cs) : SpellsSigned false d cs
  | plus {d : Decimal} {cs : List Char} (h : d.Spells cs) : SpellsSigned false d ('+' :: cs)
  | minus {d : Decimal} {cs : List Char} (h : d.Spells cs) : SpellsSigned true d ('-' :: cs)

/-- **A numeral**: an optional sign, and a plain decimal. -/
def IsNumeral (cs : List Char) : Prop := ∃ negative d, SpellsSigned negative d cs

section Numerals

variable {cs : List Char} {d : Decimal} {n : Number}

/-- A plain decimal begins with a digit or a point. -/
theorem Decimal.Spells.head (h : d.Spells cs) : ∃ c rest, cs = c :: rest ∧
    (isDecimal c = true ∨ c = '.') := by
  have digit {ds : List Char} (hds : IsNumber ds) (fs : List Char) :
      ∃ c rest, ds ++ fs = c :: rest ∧ (isDecimal c = true ∨ c = '.') := by
    obtain ⟨c, rest, rfl⟩ := List.exists_cons_of_ne_nil hds.1
    exact ⟨c, rest ++ fs, rfl, .inl (hds.2 c List.mem_cons_self)⟩
  cases h with
  | whole hds => simpa using digit hds []
  | pointed hds hfs => exact digit hds _
  | fraction hfs => exact ⟨'.', _, rfl, .inr rfl⟩

/-- A plain decimal has no sign. -/
theorem Decimal.Spells.scanSign_eq (h : d.Spells cs) : Decimal.scanSign cs = (false, cs) := by
  obtain ⟨c, rest, rfl, hc⟩ := h.head
  have hplus : c ≠ '+' := by
    rintro rfl
    revert hc
    decide +kernel
  have hminus : c ≠ '-' := by
    rintro rfl
    revert hc
    decide +kernel
  unfold Decimal.scanSign
  split
  · rename_i heq
    cases heq
    exact absurd rfl hplus
  · rename_i heq
    cases heq
    exact absurd rfl hminus
  · rfl

/-- The sign of a numeral, and the rest of it. -/
theorem spellsSigned_iff {negative : Bool} :
    SpellsSigned negative d cs ↔
      (Decimal.scanSign cs).1 = negative ∧ d.Spells (Decimal.scanSign cs).2 := by
  constructor
  · intro h
    cases h with
    | plain h =>
      rw [h.scanSign_eq]
      exact ⟨rfl, h⟩
    | plus h => exact ⟨rfl, h⟩
    | minus h => exact ⟨rfl, h⟩
  · rintro ⟨rfl, h⟩
    unfold Decimal.scanSign at h ⊢
    split at h
    · exact .plus h
    · exact .minus h
    · exact .plain h

/-- **Numerals are read** as the numbers nearest to what they spell, and nothing else is. -/
theorem readNumeral?_eq_some_iff : readNumeral? cs = some n ↔
    ∃ negative d, SpellsSigned negative d cs ∧ n = .ofBinary64 (d.toBinary64 negative) := by
  simp only [spellsSigned_iff, ← Decimal.scan_eq_iff]
  unfold readNumeral?
  simp only
  constructor
  · intro h
    split at h
    · rename_i d hscan
      split at h
      · rename_i hparts
        rw [Bool.and_eq_true, Option.isNone_iff_eq_none] at hparts
        cases h
        exact ⟨_, d, ⟨rfl, hscan, hparts⟩, rfl⟩
      · cases h
    · cases h
  · rintro ⟨_, d, ⟨rfl, hscan, hdigits, hexponent⟩, rfl⟩
    rw [hscan]
    simp [hdigits, hexponent]

theorem isNumeral_iff : IsNumeral cs ↔ ∃ n, readNumeral? cs = some n := by
  constructor
  · rintro ⟨negative, d, h⟩
    exact ⟨_, readNumeral?_eq_some_iff.mpr ⟨negative, d, h, rfl⟩⟩
  · rintro ⟨n, h⟩
    obtain ⟨negative, d, h, -⟩ := readNumeral?_eq_some_iff.mp h
    exact ⟨negative, d, h⟩

end Numerals

end RuleElements
