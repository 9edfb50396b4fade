import RuleElements.Predicate.Untyped
import RuleElements.Proofs.Text.Integer

/-!
# The grammar of tests on the character

A test on the character names an effect or a trait, or compares the level with an integer. A text is
split at each of its colons and the parts are read by their place, so what follows the last part
that has a place does not count. A name with a colon in it is cut short, and a comparison of levels
with more text behind it passes like one without. An integer with too many digits is not read, so
the level compares with none of that kind. On the texts that have nothing of these two kinds the
reading is exact.

Main definitions:
* `SelfTest.Passes`: the tests as they are written, each up to the end of its text.
* `SelfTest.PassesStart`: the tests as they are read, whatever follows.
* `SelfTest.HasSurplus`, `SelfTest.HasLongNumber`: the texts of which a part does not count, and
  those whose integer is not read.

Results:
* `Text.splitAt_eq_cons_iff`: the parts between colons.
* `SelfTest.passesSelf_iff`: which tests pass.
* `SelfTest.evaluate_iff`: the tests are read as written if and only if the text is of neither kind.
-/

namespace RuleElements

/-! ## Parts between colons -/

namespace Text

variable {s a : String} {rest : List String}

/-- A text with a colon is cut at its first one. -/
theorem exists_append_of_mem (hs : ':' ∈ s.toList) :
    ∃ a t, s = a ++ (":" ++ t) ∧ ':' ∉ a.toList := by
  obtain ⟨before, after, hcut, hbefore⟩ := List.eq_append_cons_of_mem hs
  refine ⟨String.ofList before, String.ofList after, ?_, by simpa using hbefore⟩
  apply String.toList_injective
  simp [hcut]

theorem splitAt_of_not_mem (ha : ':' ∉ a.toList) : splitAt ':' a = [a] := by
  simp [splitAt, List.splitOn_eq_singleton ha]

theorem splitAt_append (ha : ':' ∉ a.toList) (t : String) :
    splitAt ':' (a ++ (":" ++ t)) = a :: splitAt ':' t := by
  have hlist : (a ++ (":" ++ t)).toList = a.toList ++ ':' :: t.toList := by simp
  unfold splitAt
  rw [hlist, List.splitOn_append_cons_self_of_not_mem ha]
  simp

/-- **The parts between colons**: the first one has no colon, and is the whole text or stands before
a colon, after which the other parts follow. -/
theorem splitAt_eq_cons_iff : splitAt ':' s = a :: rest ↔ ':' ∉ a.toList ∧
    (s = a ∧ rest = [] ∨ ∃ t, s = a ++ (":" ++ t) ∧ splitAt ':' t = rest) := by
  constructor
  · intro h
    by_cases hs : ':' ∈ s.toList
    · obtain ⟨b, t, rfl, hb⟩ := exists_append_of_mem hs
      rw [splitAt_append hb] at h
      obtain ⟨rfl, rfl⟩ := List.cons.inj h
      exact ⟨hb, .inr ⟨t, rfl, rfl⟩⟩
    · rw [splitAt_of_not_mem hs] at h
      obtain ⟨rfl, rfl⟩ := List.cons.inj h
      exact ⟨hs, .inl ⟨rfl, rfl⟩⟩
  · rintro ⟨ha, ⟨rfl, rfl⟩ | ⟨t, rfl, rfl⟩⟩
    · exact splitAt_of_not_mem ha
    · exact splitAt_append ha t

theorem splitAt_ne_nil (separator : Char) (s : String) : splitAt separator s ≠ [] := by
  simp [splitAt, List.splitOn_ne_nil]

/-- **Nothing, or a colon and any text.** -/
inductive IsSurplus : String → Prop
  | nothing : IsSurplus ""
  | more (t : String) : IsSurplus (":" ++ t)

/-- The first part is what stands before a surplus. -/
theorem exists_splitAt_eq_cons_iff :
    (∃ rest, splitAt ':' s = a :: rest) ↔
      ':' ∉ a.toList ∧ ∃ surplus, IsSurplus surplus ∧ s = a ++ surplus := by
  simp only [splitAt_eq_cons_iff, exists_and_left]
  refine and_congr_right fun _ => ⟨?_, ?_⟩
  · rintro ⟨rest, ⟨rfl, -⟩ | ⟨t, rfl, -⟩⟩
    · exact ⟨"", .nothing, by simp⟩
    · exact ⟨":" ++ t, .more t, rfl⟩
  · rintro ⟨surplus, h | t, rfl⟩
    · exact ⟨[], .inl ⟨by simp, rfl⟩⟩
    · exact ⟨splitAt ':' t, .inr ⟨t, rfl, rfl⟩⟩

end Text

open Text

/-! ## Comparisons of levels -/

namespace LevelTest

/-- The word for a test. -/
def word : LevelTest → String
  | .exact => "exact"
  | .atLeast => "gte"
  | .atMost => "lte"
  | .above => "gt"
  | .below => "lt"

/-- **What a test says** of a level and a bound. -/
def Compares (level bound : Int) : LevelTest → Prop
  | .exact => level = bound
  | .atLeast => level ≥ bound
  | .atMost => level ≤ bound
  | .above => level > bound
  | .below => level < bound

theorem ofWord?_eq_some_iff {word : String} {test : LevelTest} :
    ofWord? word = some test ↔ word = test.word := by
  constructor
  · intro h
    unfold ofWord? at h
    split at h <;> cases h <;> rfl
  · rintro rfl
    cases test <;> rfl

theorem passes_iff {level bound : Int} (test : LevelTest) :
    test.passes level bound = true ↔ test.Compares level bound := by
  cases test <;> simp [passes, Compares]

/-- Every test is passed by some level. -/
theorem exists_compares (test : LevelTest) (bound : Int) : ∃ level, test.Compares level bound := by
  cases test with
  | exact => exact ⟨bound, rfl⟩
  | atLeast => exact ⟨bound, le_refl bound⟩
  | atMost => exact ⟨bound, le_refl bound⟩
  | above => exact ⟨bound + 1, Int.lt_succ bound⟩
  | below => exact ⟨bound - 1, Int.sub_one_lt_of_le (le_refl bound)⟩

theorem not_mem_word (test : LevelTest) : ':' ∉ test.word.toList := by
  cases test <;> decide

end LevelTest

/-! ## Tests on the character -/

namespace SelfTest

variable {ctx : Context} {s : String}

/-- **The tests that a character passes**, as they are written: a name that the character has or a
number that its level compares with, up to the end of the text. -/
inductive Passes (ctx : Context) : String → Prop
  | effect {name : String} (h : name ∈ ctx.effects.getD []) : Passes ctx ("self:effect:" ++ name)
  | trait {name : String} (h : name ∈ ctx.traits.getD []) : Passes ctx ("self:trait:" ++ name)
  | level {level : Int} {number : String} (hlevel : ctx.level = some level)
      (hnumber : IsInteger level number) : Passes ctx ("self:level:" ++ number)
  | comparison {level bound : Int} {test : LevelTest} {number : String}
      (hlevel : ctx.level = some level) (hnumber : IsInteger bound number)
      (h : test.Compares level bound) : Passes ctx ("self:level:" ++ (test.word ++ (":" ++ number)))

/-- **The texts whose start is a test that a character passes**: a name ends at its first colon, an
integer has not too many digits, and a surplus may follow a name or a comparison. -/
inductive PassesStart (ctx : Context) : String → Prop
  | effect {name surplus : String} (hname : ':' ∉ name.toList) (h : name ∈ ctx.effects.getD [])
      (hsurplus : IsSurplus surplus) : PassesStart ctx ("self:effect:" ++ (name ++ surplus))
  | trait {name surplus : String} (hname : ':' ∉ name.toList) (h : name ∈ ctx.traits.getD [])
      (hsurplus : IsSurplus surplus) : PassesStart ctx ("self:trait:" ++ (name ++ surplus))
  | level {level : Int} {number : String} (hlevel : ctx.level = some level)
      (hnumber : IsInteger level number) (hshort : ¬ IsLong number) :
      PassesStart ctx ("self:level:" ++ number)
  | comparison {level bound : Int} {test : LevelTest} {number surplus : String}
      (hlevel : ctx.level = some level) (hnumber : IsInteger bound number)
      (hshort : ¬ IsLong number) (h : test.Compares level bound) (hsurplus : IsSurplus surplus) :
      PassesStart ctx ("self:level:" ++ (test.word ++ (":" ++ (number ++ surplus))))

/-- **The texts of which a part does not count**: a colon in a name, or after a comparison with an
integer that is read. -/
inductive HasSurplus : String → Prop
  | effect (name more : String) : HasSurplus ("self:effect:" ++ (name ++ (":" ++ more)))
  | trait (name more : String) : HasSurplus ("self:trait:" ++ (name ++ (":" ++ more)))
  | comparison {bound : Int} {number : String} (test : LevelTest) (hnumber : IsInteger bound number)
      (hshort : ¬ IsLong number) (more : String) :
      HasSurplus ("self:level:" ++ (test.word ++ (":" ++ (number ++ (":" ++ more)))))

/-- **The texts whose integer is not read**: it has too many digits. -/
inductive HasLongNumber : String → Prop
  | level {n : Int} {number : String} (hnumber : IsInteger n number) (hlong : IsLong number) :
    HasLongNumber ("self:level:" ++ number)
  | comparison {bound : Int} {number : String} (test : LevelTest) (hnumber : IsInteger bound number)
      (hlong : IsLong number) : HasLongNumber ("self:level:" ++ (test.word ++ (":" ++ number)))

/-- A text that begins a test is split there, and then like the rest of it. -/
theorem splitAt_self (kind : String) (hkind : ':' ∉ kind.toList) (t : String) :
    splitAt ':' ("self:" ++ kind ++ ":" ++ t) = "self" :: kind :: splitAt ':' t := by
  have hself : "self:" ++ kind ++ ":" ++ t = "self" ++ (":" ++ (kind ++ (":" ++ t))) := by
    simp only [← String.append_assoc]
    rfl
  rw [hself, splitAt_append (by decide), splitAt_append hkind]

theorem splitAt_effect (t : String) :
    splitAt ':' ("self:effect:" ++ t) = "self" :: "effect" :: splitAt ':' t :=
  splitAt_self "effect" (by decide) t

theorem splitAt_trait (t : String) :
    splitAt ':' ("self:trait:" ++ t) = "self" :: "trait" :: splitAt ':' t :=
  splitAt_self "trait" (by decide) t

theorem splitAt_level (t : String) :
    splitAt ':' ("self:level:" ++ t) = "self" :: "level" :: splitAt ':' t :=
  splitAt_self "level" (by decide) t

/-- An integer has no colon in it. -/
theorem not_mem_of_isInteger {n : Int} {number : String} (h : IsInteger n number) :
    ':' ∉ number.toList :=
  h.not_mem (by decide +kernel) (by decide) (by decide +kernel)

theorem PassesStart.passesSelf (h : PassesStart ctx s) :
    ctx.passesSelf (splitAt ':' s) = true := by
  cases h with
  | @effect name surplus hname h hsurplus =>
    obtain ⟨rest, hparts⟩ := exists_splitAt_eq_cons_iff.mpr ⟨hname, surplus, hsurplus, rfl⟩
    rw [splitAt_effect, hparts]
    exact List.contains_iff_mem.mpr h
  | @trait name surplus hname h hsurplus =>
    obtain ⟨rest, hparts⟩ := exists_splitAt_eq_cons_iff.mpr ⟨hname, surplus, hsurplus, rfl⟩
    rw [splitAt_trait, hparts]
    exact List.contains_iff_mem.mpr h
  | level hlevel hnumber hshort =>
    rw [splitAt_level, splitAt_of_not_mem (not_mem_of_isInteger hnumber)]
    simp [Context.passesSelf, Context.passesLevel, hlevel,
      readInteger?_eq_some_iff.mpr ⟨hnumber, hshort⟩]
  | @comparison level bound test number surplus hlevel hnumber hshort h hsurplus =>
    obtain ⟨rest, hparts⟩ := exists_splitAt_eq_cons_iff.mpr
      ⟨not_mem_of_isInteger hnumber, surplus, hsurplus, rfl⟩
    rw [splitAt_level, splitAt_append test.not_mem_word, hparts]
    simp [Context.passesSelf, Context.passesLevel, hlevel,
      readInteger?_eq_some_iff.mpr ⟨hnumber, hshort⟩, LevelTest.ofWord?_eq_some_iff.mpr rfl,
      test.passes_iff.mpr h]

/-- What is split after `self` and a kind of test begins with these. -/
theorem exists_of_splitAt_self {kind : String} {part : String} {parts : List String}
    (h : splitAt ':' s = "self" :: kind :: part :: parts) :
    ∃ t, s = "self:" ++ kind ++ ":" ++ t ∧ splitAt ':' t = part :: parts := by
  obtain ⟨-, ⟨-, h⟩ | ⟨t, rfl, ht⟩⟩ := splitAt_eq_cons_iff.mp h
  · cases h
  obtain ⟨-, ⟨-, h⟩ | ⟨u, rfl, hu⟩⟩ := splitAt_eq_cons_iff.mp ht
  · cases h
  refine ⟨u, ?_, hu⟩
  simp only [← String.append_assoc]
  rfl

/-- A level that passes after `self:level:` is the number there, or compares with it. -/
theorem passesStart_of_passesLevel {t part : String} {parts : List String}
    (ht : splitAt ':' t = part :: parts) (h : ctx.passesLevel (part :: parts) = true) :
    PassesStart ctx ("self:level:" ++ t) := by
  obtain ⟨level, hlevel⟩ : ∃ level, ctx.level = some level := by
    cases hlevel : ctx.level with
    | none => simp [Context.passesLevel, hlevel] at h
    | some level => exact ⟨level, rfl⟩
  obtain ⟨hpart, ⟨rfl, rfl⟩ | ⟨u, rfl, hu⟩⟩ := splitAt_eq_cons_iff.mp ht
  · obtain ⟨n, hn, heq⟩ : ∃ n, readInteger? t = some n ∧ level = n := by
      simpa [Context.passesLevel, hlevel, Option.any_eq_true] using h
    obtain ⟨hnumber, hshort⟩ := readInteger?_eq_some_iff.mp (heq ▸ hn)
    exact .level hlevel hnumber hshort
  · obtain ⟨number, rest, rfl⟩ := List.exists_cons_of_ne_nil (hu ▸ splitAt_ne_nil ':' u)
    obtain ⟨-, surplus, hsurplus, rfl⟩ := exists_splitAt_eq_cons_iff.mp ⟨rest, hu⟩
    obtain ⟨test, bound, htest, hbound, hpass⟩ : ∃ test bound,
        LevelTest.ofWord? part = some test ∧ readInteger? number = some bound ∧
          test.passes level bound = true := by
      simp only [Context.passesLevel, hlevel] at h
      split at h
      · next test bound htest hbound => exact ⟨test, bound, htest, hbound, h⟩
      · cases h
    obtain rfl := LevelTest.ofWord?_eq_some_iff.mp htest
    obtain ⟨hnumber, hshort⟩ := readInteger?_eq_some_iff.mp hbound
    exact .comparison hlevel hnumber hshort (test.passes_iff.mp hpass) hsurplus

/-- **A test passes** if and only if the text starts with one that the character passes. -/
theorem passesSelf_iff : ctx.passesSelf (splitAt ':' s) = true ↔ PassesStart ctx s := by
  refine ⟨fun h => ?_, PassesStart.passesSelf⟩
  unfold Context.passesSelf at h
  split at h
  · next name rest hparts =>
    obtain ⟨t, rfl, ht⟩ := exists_of_splitAt_self hparts
    obtain ⟨hname, surplus, hsurplus, rfl⟩ := exists_splitAt_eq_cons_iff.mp ⟨rest, ht⟩
    exact .effect hname (List.contains_iff_mem.mp h) hsurplus
  · next name rest hparts =>
    obtain ⟨t, rfl, ht⟩ := exists_of_splitAt_self hparts
    obtain ⟨hname, surplus, hsurplus, rfl⟩ := exists_splitAt_eq_cons_iff.mp ⟨rest, ht⟩
    exact .trait hname (List.contains_iff_mem.mp h) hsurplus
  · next part parts hparts =>
    obtain ⟨t, rfl, ht⟩ := exists_of_splitAt_self hparts
    exact passesStart_of_passesLevel ht h
  · cases h

/-! ## Texts that are not read as they are written -/

/-- Without a surplus and a long integer, a text is read as it is written. -/
theorem passesStart_iff_passes (hs : ¬ HasSurplus s) (hread : ¬ HasLongNumber s) :
    PassesStart ctx s ↔ Passes ctx s := by
  constructor
  · intro h
    cases h with
    | effect hname h hsurplus =>
      cases hsurplus with
      | nothing => simpa using Passes.effect h
      | more t => exact absurd (.effect _ t) hs
    | trait hname h hsurplus =>
      cases hsurplus with
      | nothing => simpa using Passes.trait h
      | more t => exact absurd (.trait _ t) hs
    | level hlevel hnumber hshort => exact .level hlevel hnumber
    | comparison hlevel hnumber hshort h hsurplus =>
      cases hsurplus with
      | nothing => simpa using Passes.comparison hlevel hnumber h
      | more t => exact absurd (.comparison _ hnumber hshort t) hs
  · intro h
    cases h with
    | @effect name h =>
      by_cases hname : ':' ∈ name.toList
      · obtain ⟨a, more, rfl, -⟩ := exists_append_of_mem hname
        exact absurd (.effect a more) hs
      · simpa using PassesStart.effect hname h .nothing
    | @trait name h =>
      by_cases hname : ':' ∈ name.toList
      · obtain ⟨a, more, rfl, -⟩ := exists_append_of_mem hname
        exact absurd (.trait a more) hs
      · simpa using PassesStart.trait hname h .nothing
    | level hlevel hnumber => exact .level hlevel hnumber fun hlong => hread (.level hnumber hlong)
    | comparison hlevel hnumber h =>
      have hshort := fun hlong => hread (.comparison _ hnumber hlong)
      simpa using PassesStart.comparison hlevel hnumber hshort h .nothing

/-- What a character passes at its level has one colon after `self:level:` at most. -/
theorem Passes.count_le {t : String} (h : Passes ctx ("self:level:" ++ t)) :
    t.toList.count ':' ≤ 1 := by
  generalize hs : "self:level:" ++ t = s at h
  cases h with
  | effect => simpa using congrArg String.toList hs
  | trait => simpa using congrArg String.toList hs
  | level hlevel hnumber =>
    obtain rfl := String.append_right_inj _ |>.mp hs
    rw [List.count_eq_zero.mpr (not_mem_of_isInteger hnumber)]
    exact Nat.zero_le 1
  | @comparison level bound test number hlevel hnumber h =>
    obtain rfl := String.append_right_inj _ |>.mp hs
    simp [List.count_eq_zero.mpr (not_mem_of_isInteger hnumber),
      List.count_eq_zero.mpr test.not_mem_word]

/-- An effect is looked up by all that follows `self:effect:`. -/
theorem passes_effect_iff {t : String} :
    Passes ctx ("self:effect:" ++ t) ↔ t ∈ ctx.effects.getD [] := by
  refine ⟨fun h => ?_, .effect⟩
  generalize hs : "self:effect:" ++ t = s at h
  cases h with
  | effect h => exact String.append_right_inj _ |>.mp hs ▸ h
  | trait => simpa using congrArg String.toList hs
  | level => simpa using congrArg String.toList hs
  | comparison => simpa using congrArg String.toList hs

/-- A text with a surplus has three colons or more. -/
theorem HasSurplus.three_le_count (h : HasSurplus s) : 3 ≤ s.toList.count ':' := by
  have hcolon : (":" : String).toList.count ':' = 1 := by decide
  have heffect : "self:effect:".toList.count ':' = 2 := by decide
  have htrait : "self:trait:".toList.count ':' = 2 := by decide
  have hlevel : "self:level:".toList.count ':' = 2 := by decide
  cases h <;> simp only [String.toList_append, List.count_append] <;> omega

/-- The name that is read of one with a colon in it is another name. -/
theorem exists_splitAt_cut (name more : String) :
    ∃ a rest, splitAt ':' (name ++ (":" ++ more)) = a :: rest ∧ a ∉ [name ++ (":" ++ more)] := by
  have hcolon : ':' ∈ (name ++ (":" ++ more)).toList := by simp
  obtain ⟨a, rest, hparts⟩ :=
    List.exists_cons_of_ne_nil (splitAt_ne_nil ':' (name ++ (":" ++ more)))
  refine ⟨a, rest, hparts, fun hmem => (splitAt_eq_cons_iff.mp hparts).1 ?_⟩
  rwa [List.mem_singleton.mp hmem]

/-- **A surplus makes a difference** to some character without options. -/
theorem HasSurplus.exists_differs (h : HasSurplus s) :
    ∃ ctx : Context, ctx.options = [] ∧ ¬ (PassesStart ctx s ↔ Passes ctx s) := by
  cases h with
  | effect name more =>
    obtain ⟨a, rest, hparts, ha⟩ := exists_splitAt_cut name more
    refine ⟨{ effects := some [name ++ (":" ++ more)] }, rfl, fun hiff => ha ?_⟩
    have hpass := (hiff.mpr (.effect (List.mem_singleton_self _))).passesSelf
    rw [splitAt_effect, hparts] at hpass
    exact List.contains_iff_mem.mp hpass
  | trait name more =>
    obtain ⟨a, rest, hparts, ha⟩ := exists_splitAt_cut name more
    refine ⟨{ traits := some [name ++ (":" ++ more)] }, rfl, fun hiff => ha ?_⟩
    have hpass := (hiff.mpr (.trait (List.mem_singleton_self _))).passesSelf
    rw [splitAt_trait, hparts] at hpass
    exact List.contains_iff_mem.mp hpass
  | @comparison bound number test hnumber hshort more =>
    obtain ⟨level, hcompares⟩ := test.exists_compares bound
    refine ⟨{ level := some level }, rfl, fun hiff => ?_⟩
    have hcount := (hiff.mp (.comparison rfl hnumber hshort hcompares (.more more))).count_le
    simp only [String.toList_append, List.count_append] at hcount
    have hcolons : (":" : String).toList.count ':' = 1 := by decide
    omega

/-- **A long integer makes a difference** to some character without options. -/
theorem HasLongNumber.exists_differs (h : HasLongNumber s) :
    ∃ ctx : Context, ctx.options = [] ∧ ¬ (PassesStart ctx s ↔ Passes ctx s) := by
  cases h with
  | @level n number hnumber hlong =>
    refine ⟨{ level := some n }, rfl, fun hiff => ?_⟩
    have hpass := (hiff.mpr (.level rfl hnumber)).passesSelf
    rw [splitAt_level, splitAt_of_not_mem (not_mem_of_isInteger hnumber)] at hpass
    simp [Context.passesSelf, Context.passesLevel, readInteger?_of_isLong hlong] at hpass
  | @comparison bound number test hnumber hlong =>
    obtain ⟨level, hcompares⟩ := test.exists_compares bound
    refine ⟨{ level := some level }, rfl, fun hiff => ?_⟩
    have hpass := (hiff.mpr (.comparison rfl hnumber hcompares)).passesSelf
    rw [splitAt_level, splitAt_append test.not_mem_word,
      splitAt_of_not_mem (not_mem_of_isInteger hnumber)] at hpass
    simp [Context.passesSelf, Context.passesLevel, readInteger?_of_isLong hlong] at hpass

/-! ## The evaluation of a text -/

/-- A single text is evaluated as the option that it is, and nothing is reported. -/
theorem evaluate_text (ctx : Context) (s : String) :
    Data.evaluatePredicate ctx (.list [.text s]) = .ok (ctx.holds s, []) := by
  cases hholds : ctx.holds s <;>
    simp [Data.evaluatePredicate, Data.evaluateNamed, Data.named, Data.namedItems, Data.isEmpty,
      Data.evaluateItems, Data.evaluateStatement, Verdict.ofBool, Verdict.settledBy, hholds]

/-- A text that is no option in force holds if it starts with a test that the character passes. -/
theorem holds_iff (hs : s ∉ ctx.options) : ctx.holds s = true ↔ PassesStart ctx s := by
  unfold Context.holds Context.hasOption
  rw [Bool.or_eq_true, passesSelf_iff, List.contains_iff_mem, or_iff_right hs]

/-- **A text that is no option in force** holds, checked or unchecked, if and only if it starts with
a test that the character passes, with an integer that is read; whatever follows the test does not
count. So the tests are read as they are written, for all characters, if and only if the text has no
surplus and no integer with too many digits. -/
theorem evaluate_iff (s : String) :
    (∀ ctx : Context, s ∉ ctx.options →
      ∃ b, Data.evaluatePredicate ctx (.list [.text s]) = .ok (b, []) ∧
        Predicate.holds ctx [.option s] = b ∧ (b = true ↔ PassesStart ctx s)) ∧
    ((∀ ctx : Context, s ∉ ctx.options →
      (Data.evaluatePredicate ctx (.list [.text s]) = .ok (true, []) ↔ Passes ctx s)) ↔
        ¬ HasSurplus s ∧ ¬ HasLongNumber s) := by
  refine ⟨fun ctx hs => ⟨ctx.holds s, evaluate_text ctx s, ?_, holds_iff hs⟩, fun hexact => ?_, ?_⟩
  · exact Bool.and_true _
  · have hagree : ¬ ∃ ctx : Context, ctx.options = [] ∧ ¬ (PassesStart ctx s ↔ Passes ctx s) := by
      rintro ⟨ctx, hoptions, hdiffers⟩
      have hs : s ∉ ctx.options := hoptions ▸ List.not_mem_nil
      refine hdiffers ((holds_iff hs).symm.trans (Iff.trans ?_ (hexact ctx hs)))
      simp [evaluate_text]
    exact ⟨fun h => hagree h.exists_differs, fun h => hagree h.exists_differs⟩
  · rintro ⟨hsurplus, hshort⟩ ctx hs
    rw [evaluate_text, ← passesStart_iff_passes hsurplus hshort, ← holds_iff hs]
    simp

/-- An effect with a colon in its name is not found, its first part is found in its place, and a
level that has another word behind it is compared all the same. -/
theorem surplus_does_not_count :
    let effect := "self:effect:rage:greater"
    let level := "self:level:gte:5:junk"
    (Data.evaluatePredicate { effects := some ["rage:greater"] } (.list [.text effect]) =
        .ok (false, []) ∧ Passes { effects := some ["rage:greater"] } effect) ∧
      (Data.evaluatePredicate { effects := some ["rage"] } (.list [.text effect]) =
        .ok (true, []) ∧ ¬ Passes { effects := some ["rage"] } effect) ∧
      Data.evaluatePredicate { level := some 5 } (.list [.text level]) = .ok (true, []) ∧
        ¬ Passes { level := some 5 } level := by
  have heffect : "self:effect:rage:greater" = "self:effect:" ++ "rage:greater" := rfl
  have hlevel : "self:level:gte:5:junk" = "self:level:" ++ "gte:5:junk" := rfl
  refine ⟨⟨by rfl, ?_⟩, ⟨by rfl, fun h => ?_⟩, by rfl, fun h => ?_⟩
  · exact heffect ▸ .effect (List.mem_singleton_self _)
  · rw [heffect, passes_effect_iff] at h
    exact absurd (List.mem_singleton.mp h) (by decide)
  · rw [hlevel] at h
    exact absurd h.count_le (by decide)

/-- A name without a colon is read as it is written. -/
theorem evaluate_iff_of_rage :
    let ctx : Context := { options := ["armed"], effects := some ["rage"] }
    ¬ HasSurplus "self:effect:rage" ∧ ¬ HasLongNumber "self:effect:rage" ∧
      "self:effect:rage" ∉ ctx.options ∧
      Data.evaluatePredicate ctx (.list [.text "self:effect:rage"]) = .ok (true, []) := by
  intro ctx
  have hsurplus : ¬ HasSurplus "self:effect:rage" := fun h => absurd h.three_le_count (by decide)
  have hshort : ¬ HasLongNumber "self:effect:rage" := by
    intro h
    generalize hs : "self:effect:rage" = s at h
    cases h <;> simpa using congrArg String.toList hs
  have hoption : "self:effect:rage" ∉ ctx.options := by decide
  have hpass : Passes ctx ("self:effect:" ++ "rage") := .effect (List.mem_singleton_self "rage")
  exact ⟨hsurplus, hshort, hoption,
    ((evaluate_iff _).2.mpr ⟨hsurplus, hshort⟩ ctx hoption).mpr hpass⟩

end SelfTest

end RuleElements
