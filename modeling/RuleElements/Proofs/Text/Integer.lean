import RuleElements.Proofs.Formula.Grammar
import RuleElements.Text.Numeral

/-!
# The grammar of integers in texts

An integer in a text is one or more groups of decimal digits of any script, with single underscores
between the groups. It may have a sign, and blanks around it. These texts and no others are read, as
the integer that their digits denote, if the digits are not too many.

Main definitions:
* `Text.AreGroups`, `Text.DenotesInteger`: how integers are written.
* `Text.IsInteger`: the texts that are integers, with any number of digits.
* `Text.IsLong`: the texts with too many digits.

Results:
* `Text.readDigits?_eq_some_iff`: which digits are read.
* `Text.readInteger?_eq_some_iff`: which integers are read.
* `Text.IsInteger.not_mem`: what is no part of an integer.
-/

namespace RuleElements.Text

/-! ## Trimming -/

section Trimming

variable {p : Char → Bool} {before middle after : List Char}

/-- What is left after trimming stands between characters that are trimmed. -/
theorem exists_trimWhere (p : Char → Bool) (cs : List Char) :
    ∃ before after, cs = before ++ trimWhere p cs ++ after ∧ (∀ c ∈ before, p c = true) ∧
      ∀ c ∈ after, p c = true := by
  refine ⟨cs.takeWhile p, ((cs.dropWhile p).reverse.takeWhile p).reverse, ?_, ?_, ?_⟩
  · unfold trimWhere
    rw [List.append_assoc, ← List.reverse_append, List.takeWhile_append_dropWhile,
      List.reverse_reverse, List.takeWhile_append_dropWhile]
  · exact fun c hc => List.mem_takeWhile_imp hc
  · exact fun c hc => List.mem_takeWhile_imp (List.mem_reverse.mp hc)

/-- Only characters around the middle are trimmed. -/
theorem trimWhere_append (hbefore : ∀ c ∈ before, p c = true) (hafter : ∀ c ∈ after, p c = true)
    (hmiddle : ∀ c ∈ middle, p c = false) : trimWhere p (before ++ middle ++ after) = middle := by
  cases middle with
  | nil =>
    have hall : ∀ c ∈ before ++ after, p c = true := fun c hc =>
      (List.mem_append.mp hc).elim (hbefore c) (hafter c)
    unfold trimWhere
    rw [List.append_nil, List.dropWhile_eq_nil_iff.mpr hall]
    rfl
  | cons c cs =>
    have hlast : (c :: cs).reverse.dropWhile p = (c :: cs).reverse :=
      List.dropWhile_eq_self_iff.mpr fun h => by
        rw [hmiddle _ (List.mem_reverse.mp (List.getElem_mem h))]
        exact Bool.false_ne_true
    have hfirst : (c :: (cs ++ after)).dropWhile p = c :: (cs ++ after) :=
      List.dropWhile_cons_of_neg (by simp [hmiddle c List.mem_cons_self])
    unfold trimWhere
    rw [List.append_assoc, List.dropWhile_append_of_pos hbefore, List.cons_append, hfirst,
      ← List.cons_append, List.reverse_append,
      List.dropWhile_append_of_pos fun c hc => hafter c (List.mem_reverse.mp hc), hlast,
      List.reverse_reverse]

end Trimming

/-! ## Digits -/

variable {cs ds : List Char}

/-- **Groups of digits**, at least one. -/
def AreGroups (groups : List (List Char)) : Prop := groups ≠ [] ∧ ∀ g ∈ groups, IsNumber g

/-- Groups with single underscores between them are the first group, and the others with an
underscore before each. -/
theorem intercalate_cons (g : List Char) (gs : List (List Char)) :
    ['_'].intercalate (g :: gs) = g ++ gs.flatMap ('_' :: ·) := by
  induction gs generalizing g with
  | nil => simp
  | cons g' gs ih => rw [List.intercalate_cons_cons, ih]; simp

/-- The value after further digits. -/
def valueAfter (value : Nat) (cs : List Char) : Nat :=
  (digitsOf cs).foldl (fun n digit => n * 10 + digit) value

theorem valueAfter_append (value : Nat) (cs ds : List Char) :
    valueAfter value (cs ++ ds) = valueAfter (valueAfter value cs) ds := by
  simp [valueAfter, digitsOf]

theorem isDecimal_underscore : isDecimal '_' = false := by decide +kernel

/-- A digit is read on top of what was read before. -/
theorem readDigitsFrom_cons_of_isDecimal {c : Char} (hc : isDecimal c = true) (value : Nat)
    (ready : Bool) (cs : List Char) : readDigitsFrom decimalValue? value ready (c :: cs) =
      readDigitsFrom decimalValue? (valueAfter value [c]) true cs := by
  obtain ⟨digit, hdigit⟩ := Option.isSome_iff_exists.mp hc
  have hne : c ≠ '_' := by
    rintro rfl
    rw [isDecimal_underscore] at hc
    cases hc
  simp [readDigitsFrom, valueAfter, digitsOf, hdigit, hne]

/-- Digits are read one after the other. -/
theorem readDigitsFrom_append {g : List Char} (hg : IsNumber g) (value : Nat) (ready : Bool)
    (cs : List Char) : readDigitsFrom decimalValue? value ready (g ++ cs) =
      readDigitsFrom decimalValue? (valueAfter value g) true cs := by
  obtain ⟨hne, hg⟩ := hg
  induction g generalizing value ready with
  | nil => exact absurd rfl hne
  | cons c g ih =>
    obtain ⟨hc, hg⟩ := List.forall_mem_cons.mp hg
    rw [List.cons_append, readDigitsFrom_cons_of_isDecimal hc]
    cases g with
    | nil => rfl
    | cons d g =>
      rw [ih _ _ (List.cons_ne_nil d g) hg, ← valueAfter_append]
      rfl

/-- **Groups of digits are read**, each after an underscore. -/
theorem readDigitsFrom_flatMap {gs : List (List Char)} (hgs : ∀ g ∈ gs, IsNumber g)
    (value : Nat) : readDigitsFrom decimalValue? value true (gs.flatMap ('_' :: ·)) =
      some (valueAfter value gs.flatten) := by
  induction gs generalizing value with
  | nil => rfl
  | cons g gs ih =>
    obtain ⟨hg, hgs⟩ := List.forall_mem_cons.mp hgs
    rw [List.flatten_cons, valueAfter_append, ← ih hgs, ← readDigitsFrom_append hg _ false]
    rfl

/-- Nothing but groups of digits is read; the first one goes on with the digits before it, if there
are any. -/
theorem exists_groups_of_readDigitsFrom {value n : Nat} {ready : Bool}
    (h : readDigitsFrom decimalValue? value ready cs = some n) :
    ∃ (g : List Char) (gs : List (List Char)), cs = g ++ gs.flatMap ('_' :: ·) ∧ AreDigits g ∧
      (ready = true ∨ g ≠ []) ∧ (∀ g' ∈ gs, IsNumber g') ∧
        n = valueAfter value (g ++ gs.flatten) := by
  induction cs generalizing value ready with
  | nil =>
    cases ready with
    | false => cases h
    | true =>
      cases h
      exact ⟨[], [], rfl, List.forall_mem_nil _, .inl rfl, List.forall_mem_nil _, rfl⟩
  | cons c cs ih =>
    by_cases hunderscore : c = '_'
    · subst hunderscore
      cases ready with
      | false => cases h
      | true =>
        have hrest : readDigitsFrom decimalValue? value false cs = some n := h
        obtain ⟨g, gs, rfl, hg, hne, hgs, rfl⟩ := ih hrest
        have hnumber : IsNumber g := ⟨hne.resolve_left Bool.false_ne_true, hg⟩
        exact ⟨[], g :: gs, rfl, List.forall_mem_nil _, .inl rfl,
          List.forall_mem_cons.mpr ⟨hnumber, hgs⟩, rfl⟩
    · cases hc : isDecimal c with
      | false =>
        have hnone : decimalValue? c = none := by simpa [isDecimal] using hc
        simp [readDigitsFrom, hunderscore, hnone] at h
      | true =>
        rw [readDigitsFrom_cons_of_isDecimal hc] at h
        obtain ⟨g, gs, rfl, hg, -, hgs, rfl⟩ := ih h
        refine ⟨c :: g, gs, rfl, List.forall_mem_cons.mpr ⟨hc, hg⟩,
          .inr (List.cons_ne_nil c g), hgs, ?_⟩
        rw [← valueAfter_append]
        rfl

/-- **Groups of digits are read** as the number that all their digits denote; nothing else is. -/
theorem readDigits?_eq_some_iff {n : Nat} : readDigits? decimalValue? cs = some n ↔
    ∃ groups, AreGroups groups ∧ cs = ['_'].intercalate groups ∧ n = numberOf groups.flatten := by
  constructor
  · intro h
    obtain ⟨g, gs, rfl, hg, hne, hgs, rfl⟩ := exists_groups_of_readDigitsFrom h
    have hnumber : IsNumber g := ⟨hne.resolve_left Bool.false_ne_true, hg⟩
    exact ⟨g :: gs, ⟨List.cons_ne_nil g gs, List.forall_mem_cons.mpr ⟨hnumber, hgs⟩⟩,
      (intercalate_cons g gs).symm, rfl⟩
  · rintro ⟨groups, ⟨hne, hgroups⟩, rfl, rfl⟩
    obtain ⟨g, gs, rfl⟩ := List.exists_cons_of_ne_nil hne
    obtain ⟨hg, hgs⟩ := List.forall_mem_cons.mp hgroups
    rw [intercalate_cons, List.flatten_cons]
    calc readDigitsFrom decimalValue? 0 false (g ++ gs.flatMap ('_' :: ·))
        = some (valueAfter (valueAfter 0 g) gs.flatten) :=
          (readDigitsFrom_append hg 0 false _).trans (readDigitsFrom_flatMap hgs _)
      _ = some (numberOf (g ++ gs.flatten)) := by rw [← valueAfter_append]; rfl

/-! ## Integers -/

/-- **How an integer is written**: in groups of digits, which may have a sign. -/
inductive DenotesInteger : Int → List Char → Prop
  | plain {groups : List (List Char)} (h : AreGroups groups) :
    DenotesInteger (numberOf groups.flatten) (['_'].intercalate groups)
  | plus {groups : List (List Char)} (h : AreGroups groups) :
    DenotesInteger (numberOf groups.flatten) ('+' :: ['_'].intercalate groups)
  | minus {groups : List (List Char)} (h : AreGroups groups) :
    DenotesInteger (-(numberOf groups.flatten)) ('-' :: ['_'].intercalate groups)

/-- **A text that is an integer**: one as it is written, and any blanks around it. -/
def IsInteger (n : Int) (s : String) : Prop :=
  ∃ before numeral after, s.toList = before ++ numeral ++ after ∧
    (∀ c ∈ before, isSpace c = true) ∧ (∀ c ∈ after, isSpace c = true) ∧ DenotesInteger n numeral

/-- The characters of groups are digits and underscores. -/
theorem AreGroups.of_mem {groups : List (List Char)} (h : AreGroups groups) {c : Char}
    (hc : c ∈ ['_'].intercalate groups) : c = '_' ∨ isDecimal c = true := by
  obtain ⟨g, gs, rfl⟩ := List.exists_cons_of_ne_nil h.1
  obtain ⟨hg, hgs⟩ := List.forall_mem_cons.mp h.2
  rw [intercalate_cons, List.mem_append, List.mem_flatMap] at hc
  rcases hc with hc | ⟨g', hg', hc⟩
  · exact .inr (hg.2 c hc)
  · exact (List.mem_cons.mp hc).imp_right ((hgs g' hg').2 c)

/-- The characters of an integer are signs, digits and underscores. -/
theorem DenotesInteger.of_mem {n : Int} (h : DenotesInteger n cs) {c : Char} (hc : c ∈ cs) :
    c ∈ ['+', '-', '_'] ∨ isDecimal c = true := by
  have hgroups {groups : List (List Char)} (h : AreGroups groups)
      (hc : c ∈ ['_'].intercalate groups) : c ∈ ['+', '-', '_'] ∨ isDecimal c = true :=
    (h.of_mem hc).imp_left fun hc => by simp [hc]
  cases h with
  | plain h => exact hgroups h hc
  | plus h => exact (List.mem_cons.mp hc).elim (fun hc => .inl (by simp [hc])) (hgroups h)
  | minus h => exact (List.mem_cons.mp hc).elim (fun hc => .inl (by simp [hc])) (hgroups h)

/-- An integer has no blanks in it. -/
theorem DenotesInteger.isSpace {n : Int} (h : DenotesInteger n cs) {c : Char} (hc : c ∈ cs) :
    isSpace c = false := by
  rcases h.of_mem hc with hc | hc
  · simp only [List.mem_cons, List.not_mem_nil, or_false] at hc
    obtain rfl | rfl | rfl := hc <;> decide +kernel
  · simp [Text.isSpace, isBlank_of_isDecimal hc]

/-- Groups of digits begin with a digit. -/
theorem AreGroups.exists_cons {groups : List (List Char)} (h : AreGroups groups) :
    ∃ c rest, ['_'].intercalate groups = c :: rest ∧ isDecimal c = true := by
  obtain ⟨g, gs, rfl⟩ := List.exists_cons_of_ne_nil h.1
  obtain ⟨⟨hne, hg⟩, -⟩ := List.forall_mem_cons.mp h.2
  obtain ⟨c, g, rfl⟩ := List.exists_cons_of_ne_nil hne
  exact ⟨c, _, intercalate_cons _ gs, hg c List.mem_cons_self⟩

/-- Without a sign in front, a numeral is read by its digits. -/
theorem readSigned?_of_isDecimal (read? : List Char → Option Nat) {c : Char}
    (hc : isDecimal c = true) (cs : List Char) :
    readSigned? read? (c :: cs) = (read? (c :: cs)).map Int.ofNat := by
  have hplus : c ≠ '+' := by
    rintro rfl
    exact absurd hc (by decide +kernel)
  have hminus : c ≠ '-' := by
    rintro rfl
    exact absurd hc (by decide +kernel)
  unfold readSigned?
  split
  · next heq => exact absurd (List.cons.inj heq).1 hplus
  · next heq => exact absurd (List.cons.inj heq).1 hminus
  · rfl

/-- **Signed digits are read** as the integer that they denote, and nothing else is. -/
theorem readSigned?_eq_some_iff {n : Int} :
    readSigned? (readDigits? decimalValue?) cs = some n ↔ DenotesInteger n cs := by
  constructor
  · intro h
    unfold readSigned? at h
    split at h <;> obtain ⟨m, hm, rfl⟩ := Option.map_eq_some_iff.mp h <;>
      obtain ⟨groups, hgroups, rfl, rfl⟩ := readDigits?_eq_some_iff.mp hm
    · exact .plus hgroups
    · exact .minus hgroups
    · exact .plain hgroups
  · have hread {groups : List (List Char)} (h : AreGroups groups) :
        readDigits? decimalValue? (['_'].intercalate groups) = some (numberOf groups.flatten) :=
      readDigits?_eq_some_iff.mpr ⟨groups, h, rfl, rfl⟩
    rintro (h | h | h)
    · obtain ⟨c, rest, hcons, hc⟩ := h.exists_cons
      rw [hcons, readSigned?_of_isDecimal _ hc, ← hcons, hread h]
      rfl
    · simp [readSigned?, hread h]
    · simp [readSigned?, hread h]

/-- **A text with more digits** than an integer that is read may have. -/
def IsLong (s : String) : Prop := digitLimit < digitCount s.toList

/-- Too many digits are not read. -/
theorem readInteger?_of_isLong {s : String} (h : IsLong s) : readInteger? s = none := by
  unfold readInteger?
  exact if_pos h

/-- **Integers are read** if they have not too many digits, and no other texts are. -/
theorem readInteger?_eq_some_iff {s : String} {n : Int} :
    readInteger? s = some n ↔ IsInteger n s ∧ ¬ IsLong s := by
  by_cases hlong : IsLong s
  · rw [readInteger?_of_isLong hlong]
    simp [hlong]
  rw [show readInteger? s = _ from if_neg hlong, readSigned?_eq_some_iff, and_iff_left hlong]
  constructor
  · intro h
    obtain ⟨before, after, hs, hbefore, hafter⟩ := exists_trimWhere Text.isSpace s.toList
    exact ⟨before, _, after, hs, hbefore, hafter, h⟩
  · rintro ⟨before, numeral, after, hs, hbefore, hafter, h⟩
    have htrim : trimWhere Text.isSpace s.toList = numeral := by
      rw [hs]
      exact trimWhere_append hbefore hafter fun c hc => h.isSpace hc
    rwa [htrim]

/-- What is neither a blank nor a sign, an underscore or a digit is no part of an integer. -/
theorem IsInteger.not_mem {s : String} {n : Int} (h : IsInteger n s) {c : Char}
    (hspace : Text.isSpace c = false) (hsign : c ∉ ['+', '-', '_'])
    (hdigit : isDecimal c = false) : c ∉ s.toList := by
  obtain ⟨before, numeral, after, hs, hbefore, hafter, h⟩ := h
  rw [hs, List.mem_append, List.mem_append]
  rintro ((hc | hc) | hc)
  · simp [hbefore c hc] at hspace
  · exact (h.of_mem hc).elim hsign (by simp [hdigit])
  · simp [hafter c hc] at hspace

end RuleElements.Text
