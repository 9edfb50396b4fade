import RuleElements.Proofs.Faulting
import RuleElements.Proofs.Predicate.Agreement
import RuleElements.Proofs.Predicate.Unchecked

/-!
# Predicates without negation

What holds without negation goes on holding when the character gains options, effects or traits. An
unchecked predicate may fail instead: a value without parts may stand where statements are expected,
and with more options the evaluation may come to a place that it did not reach before. But it never
turns false, and it fails in no other way.

Main definitions:
* `Statement.isPositive`, `Data.isPositive`: statements without negation, checked and unchecked.
* `Context.Within`: a context that has no more than another one.
* `Data.isTraversable`: whether there are parts wherever statements are expected.
* `Verdict.Kept`: properties that go over from the verdicts on parts to the one on the whole.

Results:
* `Statement.holds_mono`: what holds without negation holds in every context that holds more.
* `Data.evaluateStatement_stands`: an unchecked statement without negation does not turn false.
* `Data.evaluateStatement_kept`: what the verdicts on unchecked statements have in common.
* `Data.evaluatePredicate_mono`: checked and unchecked predicates in a context that has more.

Out of scope: the depth of a predicate. Statements are evaluated here however deep they lie, where
an implementation may end a recursion that goes too deep.
-/

namespace RuleElements

/-! ## Predicates without negation -/

mutual

/-- Whether what counts of a statement is free of negation. -/
def Statement.isPositive : Statement → Bool
  | .option _ => true
  | .compound _ _ (some _) => false
  | .compound (some all) _ none => Statement.allPositive all
  | .compound none (some any) none => Statement.allPositive any
  | .compound none none none => true

/-- Whether all statements of a list are free of negation. -/
def Statement.allPositive : List Statement → Bool
  | [] => true
  | s :: rest => s.isPositive && Statement.allPositive rest

end

/-- Whether a predicate is free of negation; a missing one is. -/
def Predicate.isPositive (p : Option Predicate) : Bool := Statement.allPositive (p.getD [])

section Monotone

variable {a b : Context}

mutual

/-- **What holds without negation holds in every context that holds more.** -/
theorem Statement.holds_mono (more : ∀ o, a.holds o = true → b.holds o = true) :
    ∀ s : Statement, s.isPositive = true → s.holds a = true → s.holds b = true
  | .option name, _, h => more name h
  | .compound _ _ (some _), hpos, _ => nomatch hpos
  | .compound (some all) _ none, hpos, h => Statement.allHold_mono more all hpos h
  | .compound none (some any) none, hpos, h => Statement.anyHolds_mono more any hpos h
  | .compound none none none, _, _ => rfl

theorem Statement.allHold_mono (more : ∀ o, a.holds o = true → b.holds o = true) :
    ∀ ss : List Statement, Statement.allPositive ss = true → Statement.allHold a ss = true →
      Statement.allHold b ss = true
  | [], _, _ => rfl
  | s :: rest, hpos, h => by
    rw [Statement.allPositive, Bool.and_eq_true] at hpos
    rw [Statement.allHold, Bool.and_eq_true] at h ⊢
    exact ⟨Statement.holds_mono more s hpos.1 h.1, Statement.allHold_mono more rest hpos.2 h.2⟩

theorem Statement.anyHolds_mono (more : ∀ o, a.holds o = true → b.holds o = true) :
    ∀ ss : List Statement, Statement.allPositive ss = true → Statement.anyHolds a ss = true →
      Statement.anyHolds b ss = true
  | [], _, h => nomatch h
  | s :: rest, hpos, h => by
    rw [Statement.allPositive, Bool.and_eq_true] at hpos
    rw [Statement.anyHolds, Bool.or_eq_true] at h ⊢
    exact h.imp (Statement.holds_mono more s hpos.1) (Statement.anyHolds_mono more rest hpos.2)

end

/-- A predicate that holds without negation holds in every context that holds more. -/
theorem Predicate.holdsIn_mono (more : ∀ o, a.holds o = true → b.holds o = true) :
    ∀ {p : Option Predicate}, Predicate.isPositive p = true → Predicate.holdsIn a p = true →
      Predicate.holdsIn b p = true
  | none, _, _ => rfl
  | some p, hpos, h => Statement.allHold_mono more p hpos h

end Monotone

/-! ## Contexts that have more -/

namespace Context

variable {a b : Context}

/-- **A context within another one**: at the same level, it has no option, effect or trait that the
other one lacks. A list that is missing has nothing. -/
structure Within (a b : Context) : Prop where
  level : a.level = b.level
  options : a.options ⊆ b.options
  effects : a.effects.getD [] ⊆ b.effects.getD []
  traits : a.traits.getD [] ⊆ b.traits.getD []

namespace Within

/-- A test on the character that passes goes on passing. -/
theorem passesSelf (h : a.Within b) {parts : List String} (hpass : a.passesSelf parts = true) :
    b.passesSelf parts = true := by
  unfold Context.passesSelf at *
  split at hpass
  · exact List.contains_iff_mem.mpr (h.effects (List.contains_iff_mem.mp hpass))
  · exact List.contains_iff_mem.mpr (h.traits (List.contains_iff_mem.mp hpass))
  · unfold passesLevel at *
    rwa [← h.level]
  · cases hpass

/-- What holds goes on holding. -/
theorem holds (h : a.Within b) (o : String) (hholds : a.holds o = true) : b.holds o = true := by
  unfold Context.holds at *
  rw [Bool.or_eq_true] at hholds ⊢
  refine hholds.imp (fun hforce => ?_) h.passesSelf
  exact List.contains_iff_mem.mpr (h.options (List.contains_iff_mem.mp hforce))

end Within

/-- A context of the same character with more options in force holds more. -/
theorem holds_mono (hlevel : a.level = b.level) (htraits : a.traits = b.traits)
    (heffects : a.effects = b.effects) (hoptions : ∀ o ∈ a.options, o ∈ b.options) {o : String}
    (h : a.holds o = true) : b.holds o = true := by
  have hwithin : a.Within b :=
    ⟨hlevel, hoptions, heffects ▸ List.Subset.refl _, htraits ▸ List.Subset.refl _⟩
  exact hwithin.holds o h

end Context

/-! ## Verdicts -/

namespace Verdict

/-- The verdict that something holds. -/
def IsTrue (v : Verdict) : Prop := ∃ log, v = .ok (true, log)

/-- The verdict that something does not hold. -/
def IsFalse (v : Verdict) : Prop := ∃ log, v = .ok (false, log)

/-- **A verdict that stands**: what holds by the first one is not false by the second. -/
def Stands (v w : Verdict) : Prop := v.IsTrue → ¬ w.IsFalse

variable {v w : Verdict}

theorem isTrue_ofBool {b : Bool} : (ofBool b).IsTrue ↔ b = true := by
  constructor
  · rintro ⟨log, h⟩
    exact congrArg Prod.fst (Except.ok.inj h)
  · rintro rfl
    exact ⟨[], rfl⟩

theorem isFalse_ofBool {b : Bool} : (ofBool b).IsFalse ↔ b = false := by
  constructor
  · rintro ⟨log, h⟩
    exact congrArg Prod.fst (Except.ok.inj h)
  · rintro rfl
    exact ⟨[], rfl⟩

theorem stands_ofBool {b c : Bool} (h : b = true → c = true) : (ofBool b).Stands (ofBool c) := by
  intro hb hc
  rw [isTrue_ofBool] at hb
  rw [isFalse_ofBool, h hb] at hc
  cases hc

theorem stands_of_isFalse (w : Verdict) (h : v.IsFalse) : v.Stands w := by
  obtain ⟨log, rfl⟩ := h
  rintro ⟨log', h⟩
  cases h

/-- A matter is settled by the first verdict, or else by the second one. -/
theorem settledBy_eq_ok {stop c : Bool} {second : Unit → Verdict} {log : List LogLine}
    (h : v.settledBy stop second = .ok (c, log)) :
    (∃ first, v = .ok (stop, first) ∧ c = stop) ∨
      ∃ first more, v = .ok (!stop, first) ∧ second () = .ok (c, more) := by
  unfold settledBy at h
  split at h
  · cases h
  · rename_i x first
    split at h
    · rename_i hstop
      subst hstop
      cases h
      exact .inl ⟨_, rfl, rfl⟩
    · rename_i hgo
      obtain rfl : x = !stop := Bool.eq_not_of_ne hgo
      split at h
      · cases h
      · rename_i hsecond
        cases h
        exact .inr ⟨first, _, rfl, hsecond⟩

/-- Verdicts that stand settle a matter so that it stands. -/
theorem Stands.settledBy {stop : Bool} {v' w' : Unit → Verdict} (h : v.Stands w)
    (h' : (v' ()).Stands (w' ())) : (v.settledBy stop v').Stands (w.settledBy stop w') := by
  rintro ⟨log, hv⟩ ⟨log', hw⟩
  rcases settledBy_eq_ok hw with ⟨first, hfirst, rfl⟩ | ⟨first, more, hfirst, hmore⟩
  · -- all are wanted, and the first one fails
    refine h ?_ ⟨first, hfirst⟩
    rcases settledBy_eq_ok hv with ⟨-, -, habsurd⟩ | ⟨held, -, hheld, -⟩
    · cases habsurd
    · exact ⟨held, hheld⟩
  · -- the first one decides nothing, and the second one fails
    rcases settledBy_eq_ok hv with ⟨held, hheld, rfl⟩ | ⟨-, held, -, hheld⟩
    · exact h ⟨held, hheld⟩ ⟨first, hfirst⟩
    · exact h' ⟨held, hheld⟩ ⟨more, hmore⟩

/-- Verdicts that stand, each of them there or replaced by another one that stands. -/
theorem stands_getD {x y : Option Verdict} (h : Option.Rel Stands x y) (h' : v.Stands w) :
    (x.getD v).Stands (y.getD w) := by
  cases h with
  | none => exact h'
  | some h => exact h

/-- **A property that evaluation keeps**: a verdict without failure has it, and it goes over to the
opposite of a verdict and to a matter that two verdicts settle. -/
structure Kept (P : Verdict → Prop) : Prop where
  ok (b : Bool) (log : List LogLine) : P (.ok (b, log))
  negate {v : Verdict} : P v → P v.negate
  settledBy {v : Verdict} {stop : Bool} {second : Unit → Verdict} :
    P v → P (second ()) → P (v.settledBy stop second)

/-- The first verdict of two that is there has what both have. -/
theorem getD_of_mem {P : Verdict → Prop} {x : Option Verdict} (h : ∀ u ∈ x, P u) (h' : P v) :
    P (x.getD v) := by
  cases x with
  | none => exact h'
  | some u => exact h u rfl

/-- Evaluation without failure is kept. -/
theorem kept_isOk : Kept fun v => v.isOk = true where
  ok _ _ := rfl
  negate {v} h := by
    obtain ⟨⟨b, log⟩, rfl⟩ := Faulting.exists_ok_of_isOk h
    rfl
  settledBy {v stop second} h h' := by
    obtain ⟨⟨x, first⟩, rfl⟩ := Faulting.exists_ok_of_isOk h
    obtain ⟨⟨y, more⟩, hsecond⟩ := Faulting.exists_ok_of_isOk h'
    unfold Verdict.settledBy
    rw [hsecond]
    simp only
    split <;> rfl

/-- **A verdict that fails in one way only**: on a value without parts in the place of statements.
-/
def FailsOnParts (v : Verdict) : Prop :=
  ∀ fault, v = .error fault → ∃ typeName, fault = .notIterable typeName

/-- The way of failing is kept. -/
theorem kept_failsOnParts : Kept FailsOnParts where
  ok _ _ _ h := nomatch h
  negate {v} hv fault h := by
    cases v with
    | error fault' => exact hv fault h
    | ok verdict => cases h
  settledBy {v stop second} hv hsecond fault h := by
    unfold Verdict.settledBy at h
    split at h
    · exact hv fault h
    · split at h
      · cases h
      · split at h
        · rename_i hfault
          exact hsecond fault (hfault.trans h)
        · cases h

/-- A verdict that is not false is that something holds, unless there is none. -/
theorem isTrue_or_error (h : ¬ v.IsFalse) : v.IsTrue ∨ ∃ fault, v = .error fault := by
  cases v with
  | error fault => exact .inr ⟨fault, rfl⟩
  | ok verdict =>
    obtain ⟨b, log⟩ := verdict
    cases b with
    | false => exact absurd ⟨log, rfl⟩ h
    | true => exact .inl ⟨log, rfl⟩

end Verdict

/-! ## Unchecked predicates -/

namespace Data

variable (p : String → Data → Bool)

mutual

/-- Whether all fields of the statements of a value with named entries, at any depth, satisfy `p`.
No statements stand under other keys than those of a compound. -/
def allFields : Data → Bool
  | .list items => allFieldsOfItems items
  | .object fields => allFieldsOf fields
  | _ => true

/-- Whether all fields of the items of a list satisfy `p`. -/
def allFieldsOfItems : List Data → Bool
  | [] => true
  | item :: rest => allFields item && allFieldsOfItems rest

/-- Whether the fields of an object, and those below them, satisfy `p`. -/
def allFieldsOf : List (String × Data) → Bool
  | [] => true
  | (key, value) :: rest =>
    p key value && (!Statement.authoredKeys.contains key || allFields value) && allFieldsOf rest

end

variable {p}

/-- The fields of an object satisfy `p` if the first one, what is below it, and the rest do. -/
theorem allFieldsOf_cons {key : String} {value : Data} {rest : List (String × Data)} :
    allFieldsOf p ((key, value) :: rest) = true ↔
      p key value = true ∧ (key ∈ Statement.authoredKeys → value.allFields p = true) ∧
        allFieldsOf p rest = true := by
  simp [allFieldsOf, Decidable.imp_iff_not_or, and_assoc]

/-- Whether a value is null. -/
def isNull : Data → Bool
  | .null => true
  | _ => false

/-- Whether a value with named entries can stand where statements are expected: it is missing, or it
has parts. -/
def hasParts : Data → Bool
  | .null => true
  | .list _ => true
  | .text _ => true
  | .object _ => true
  | _ => false

/-- **A value without negation**: wherever a key `not` may count, null stands under it. -/
def isPositive (d : Data) : Bool := d.allFields fun key value => key != "not" || value.isNull

/-- **A value that can be gone through**: what stands under `and` and `or`, wherever they may count,
is missing or has parts. -/
def isTraversable (d : Data) : Bool :=
  d.allFields fun key value => !(["and", "or"].contains key) || value.hasParts

variable {key : String} {value : Data} {rest : List (String × Data)}

theorem isPositive_cons : (object ((key, value) :: rest)).isPositive = true ↔
    (key = "not" → value.isNull = true) ∧
      (key ∈ Statement.authoredKeys → value.isPositive = true) ∧
        (object rest).isPositive = true := by
  simp only [isPositive, allFields, allFieldsOf_cons]
  simp [Decidable.imp_iff_not_or]

theorem isTraversable_cons : (object ((key, value) :: rest)).isTraversable = true ↔
    (key ∈ ["and", "or"] → value.hasParts = true) ∧
      (key ∈ Statement.authoredKeys → value.isTraversable = true) ∧
        (object rest).isTraversable = true := by
  simp only [isTraversable, allFields, allFieldsOf_cons]
  simp [Decidable.imp_iff_not_or]

/-! ### Evaluation -/

variable {a b ctx : Context}

/-- The first part of an object that is there counts, and an object without parts holds. -/
theorem evaluateStatement_object (ctx : Context) (fields : List (String × Data)) :
    evaluateStatement ctx (.object fields) = (negatedAt ctx fields).getD
      ((listedAt ctx false "and" fields).getD
        ((listedAt ctx true "or" fields).getD (.ofBool true))) := by
  unfold evaluateStatement
  cases negatedAt ctx fields with
  | some verdict => rfl
  | none => cases listedAt ctx false "and" fields <;> rfl

/-- Texts in a list, all of which are wanted (`stop` is false) or one of which is, go on holding. -/
theorem evaluateTexts_stands (h : a.Within b) (stop : Bool) (texts : List String) :
    (evaluateTexts a stop texts).Stands (evaluateTexts b stop texts) := by
  apply Verdict.stands_ofBool
  cases stop with
  | false =>
    simp only [Bool.false_eq_true, if_false, List.all_eq_true]
    exact fun hall o ho => h.holds o (hall o ho)
  | true =>
    simp only [if_true, List.any_eq_true]
    exact fun ⟨o, ho, hany⟩ => ⟨o, ho, h.holds o hany⟩

/-- Without negation nothing is negated. -/
theorem negatedAt_of_positive : ∀ {fields : List (String × Data)},
    (object fields).isPositive = true → negatedAt ctx fields = none
  | [], _ => rfl
  | (key, value) :: rest, h => by
    obtain ⟨hkey, -, hrest⟩ := isPositive_cons.mp h
    unfold negatedAt
    split
    · rename_i hnot
      have hnull := hkey hnot
      cases value with
      | null => rfl
      | _ => cases hnull
    · exact negatedAt_of_positive hrest

mutual

/-- **A statement without negation does not turn false** in a context that has more. -/
theorem evaluateStatement_stands (h : a.Within b) : ∀ d : Data, d.isPositive = true →
    (evaluateStatement a d).Stands (evaluateStatement b d)
  | .text s, _ => by
    unfold evaluateStatement
    exact Verdict.stands_ofBool (h.holds s)
  | .object fields, hpos => by
    rw [evaluateStatement_object, evaluateStatement_object, negatedAt_of_positive hpos,
      negatedAt_of_positive hpos, Option.getD_none, Option.getD_none]
    exact Verdict.stands_getD (listedAt_stands h "and" (by decide) fields hpos)
      (Verdict.stands_getD (listedAt_stands h "or" (by decide) fields hpos)
        (Verdict.stands_ofBool id))
  | .null, _ => Verdict.stands_of_isFalse _ ⟨_, rfl⟩
  | .boolean _, _ => Verdict.stands_of_isFalse _ ⟨_, rfl⟩
  | .number _, _ => Verdict.stands_of_isFalse _ ⟨_, rfl⟩
  | .moment _, _ => Verdict.stands_of_isFalse _ ⟨_, rfl⟩
  | .list _, _ => Verdict.stands_of_isFalse _ ⟨_, rfl⟩
  | .mapping _, _ => Verdict.stands_of_isFalse _ ⟨_, rfl⟩

theorem evaluateItems_stands (h : a.Within b) (stop : Bool) : ∀ items : List Data,
    (list items).isPositive = true →
      (evaluateItems a stop items).Stands (evaluateItems b stop items)
  | [], _ => by
    unfold evaluateItems
    exact Verdict.stands_ofBool id
  | item :: rest, hpos => by
    obtain ⟨hitem, hrest⟩ := Bool.and_eq_true_iff.mp hpos
    unfold evaluateItems
    exact (evaluateStatement_stands h item hitem).settledBy (evaluateItems_stands h stop rest hrest)

theorem listedAt_stands (h : a.Within b) {stop : Bool} (wanted : String)
    (hwanted : wanted ∈ Statement.authoredKeys) : ∀ fields : List (String × Data),
      (object fields).isPositive = true →
        Option.Rel Verdict.Stands (listedAt a stop wanted fields) (listedAt b stop wanted fields)
  | [], _ => by
    unfold listedAt
    exact .none
  | (key, value) :: rest, hpos => by
    obtain ⟨-, hvalue, hrest⟩ := isPositive_cons.mp hpos
    unfold listedAt
    split
    · rename_i hkey
      subst hkey
      cases value with
      | null => exact .none
      | list items => exact .some (evaluateItems_stands h stop items (hvalue hwanted))
      | text s => exact .some (evaluateTexts_stands h stop _)
      | object fields => exact .some (evaluateTexts_stands h stop _)
      | _ => exact .some fun ⟨_, hheld⟩ => nomatch hheld
    · exact listedAt_stands h wanted hwanted rest hrest

end

section Kept

variable {P : Verdict → Prop} (hP : Verdict.Kept P)

include hP

mutual

/-- **The verdict on a statement has every property that is kept**, if the statement can be gone
through, or if the failures on those that cannot have the property too. -/
theorem evaluateStatement_kept : ∀ d : Data,
    (d.isTraversable = true ∨ ∀ typeName, P (.error (.notIterable typeName))) →
      P (evaluateStatement ctx d)
  | .text _, _ => by
    unfold evaluateStatement
    exact hP.ok _ _
  | .object fields, h => by
    rw [evaluateStatement_object]
    exact Verdict.getD_of_mem (negatedAt_kept fields h)
      (Verdict.getD_of_mem (listedAt_kept "and" (by decide) fields h)
        (Verdict.getD_of_mem (listedAt_kept "or" (by decide) fields h) (hP.ok _ _)))
  | .null, _ => hP.ok _ _
  | .boolean _, _ => hP.ok _ _
  | .number _, _ => hP.ok _ _
  | .moment _, _ => hP.ok _ _
  | .list _, _ => hP.ok _ _
  | .mapping _, _ => hP.ok _ _

theorem evaluateItems_kept {stop : Bool} : ∀ items : List Data,
    ((list items).isTraversable = true ∨ ∀ typeName, P (.error (.notIterable typeName))) →
      P (evaluateItems ctx stop items)
  | [], _ => by
    unfold evaluateItems
    exact hP.ok _ _
  | item :: rest, h => by
    unfold evaluateItems
    exact hP.settledBy
      (evaluateStatement_kept item (h.imp_left fun h => (Bool.and_eq_true_iff.mp h).1))
      (evaluateItems_kept rest (h.imp_left fun h => (Bool.and_eq_true_iff.mp h).2))

theorem negatedAt_kept : ∀ fields : List (String × Data),
    ((object fields).isTraversable = true ∨ ∀ typeName, P (.error (.notIterable typeName))) →
      ∀ v ∈ negatedAt ctx fields, P v
  | [], _ => by
    unfold negatedAt
    exact nofun
  | (key, value) :: rest, h => by
    by_cases hkey : key = "not"
    · subst hkey
      by_cases hnull : value = .null
      · subst hnull
        simp [negatedAt]
      · rw [negatedAt_cons_self hnull]
        rintro v ⟨⟩
        refine hP.negate (evaluateStatement_kept value (h.imp_left fun h => ?_))
        exact (isTraversable_cons.mp h).2.1 (by decide)
    · unfold negatedAt
      rw [if_neg hkey]
      exact negatedAt_kept rest (h.imp_left fun h => (isTraversable_cons.mp h).2.2)

theorem listedAt_kept {stop : Bool} (wanted : String) (hwanted : wanted ∈ ["and", "or"]) :
    ∀ fields : List (String × Data),
      ((object fields).isTraversable = true ∨ ∀ typeName, P (.error (.notIterable typeName))) →
        ∀ v ∈ listedAt ctx stop wanted fields, P v
  | [], _ => by
    unfold listedAt
    exact nofun
  | (key, value) :: rest, h => by
    unfold listedAt
    split
    · rename_i hkey
      subst hkey
      have hparts := h.imp_left fun h => (isTraversable_cons.mp h).1 hwanted
      cases value with
      | null => exact nofun
      | list items =>
        rintro v ⟨⟩
        refine evaluateItems_kept items (h.imp_left fun h => ?_)
        exact (isTraversable_cons.mp h).2.1 (List.mem_append_left ["not"] hwanted)
      | text s =>
        rintro v ⟨⟩
        exact hP.ok _ _
      | object fields =>
        rintro v ⟨⟩
        exact hP.ok _ _
      | _ =>
        rintro v ⟨⟩
        exact hparts.elim (nomatch ·) (· _)
    · exact listedAt_kept wanted hwanted rest
        (h.imp_left fun h => (isTraversable_cons.mp h).2.2)

end

end Kept

/-! ### Predicates -/

/-- A predicate with named entries that is without negation does not turn false. -/
theorem evaluateNamed_stands (h : a.Within b) {p : Data} (hpos : p.isPositive = true) :
    (evaluateNamed a p).Stands (evaluateNamed b p) := by
  unfold evaluateNamed
  split
  · exact Verdict.stands_ofBool id
  · cases p with
    | list items => exact evaluateItems_stands h false items hpos
    | text s => exact evaluateTexts_stands h false _
    | object fields => exact evaluateTexts_stands h false _
    | _ => exact fun ⟨_, hheld⟩ => nomatch hheld

/-- A predicate that can be gone through, and is none of the values that fail in every context, does
not fail. -/
theorem evaluateNamed_isOk {p : Data} (h : p.isTraversable = true)
    (hok : (evaluateNamed a p).isOk = true) : (evaluateNamed b p).isOk = true := by
  unfold evaluateNamed at *
  split
  · rfl
  · rename_i hempty
    rw [if_neg hempty] at hok
    cases p with
    | list items => exact evaluateItems_kept Verdict.kept_isOk items (.inl h)
    | text s => rfl
    | object fields => rfl
    | _ => cases hok

/-- A predicate fails on a value without parts only. -/
theorem evaluateNamed_failsOnParts (p : Data) : (evaluateNamed ctx p).FailsOnParts := by
  have hvalue : ∀ typeName, Verdict.FailsOnParts (.error (.notIterable typeName)) :=
    fun typeName _ h => ⟨typeName, (Except.error.inj h).symm⟩
  unfold evaluateNamed
  split
  · exact Verdict.kept_failsOnParts.ok _ _
  · cases p with
    | list items => exact evaluateItems_kept Verdict.kept_failsOnParts items (.inr hvalue)
    | text s => exact Verdict.kept_failsOnParts.ok _ _
    | object fields => exact Verdict.kept_failsOnParts.ok _ _
    | _ => exact hvalue _

/-- **Predicates without negation are monotone.** One that holds in a context holds in every context
that has more, at the same level. An unchecked one does so if it can be gone through; one that
cannot either holds there too or fails, and it fails on a value without parts only. So it does not
turn false. -/
theorem evaluatePredicate_mono (h : a.Within b) :
    (∀ p : Option Predicate, Predicate.isPositive p = true → Predicate.holdsIn a p = true →
      Predicate.holdsIn b p = true) ∧
    ∀ raw : Data, raw.named.isPositive = true → (evaluatePredicate a raw).IsTrue →
      (raw.named.isTraversable = true → (evaluatePredicate b raw).IsTrue) ∧
        ¬ (evaluatePredicate b raw).IsFalse ∧
          ((evaluatePredicate b raw).IsTrue ∨
            ∃ typeName, evaluatePredicate b raw = .error (.notIterable typeName)) := by
  refine ⟨fun p hpos => Predicate.holdsIn_mono h.holds hpos, fun raw hpos hheld => ?_⟩
  have hstands : ¬ (evaluatePredicate b raw).IsFalse := evaluateNamed_stands h hpos hheld
  have houtcome := Verdict.isTrue_or_error hstands
  obtain ⟨log, hheld⟩ := hheld
  have hok : (evaluateNamed a raw.named).isOk = true := congrArg Except.isOk hheld
  refine ⟨fun hparts => houtcome.resolve_right ?_, hstands, houtcome.imp_right ?_⟩
  · rintro ⟨fault, hfault⟩
    have hnone : (evaluatePredicate b raw).isOk = true := evaluateNamed_isOk hparts hok
    rw [hfault] at hnone
    cases hnone
  · rintro ⟨fault, hfault⟩
    obtain ⟨typeName, rfl⟩ := evaluateNamed_failsOnParts raw.named fault hfault
    exact ⟨typeName, hfault⟩

/-- With an option more, the evaluation comes to a number in the place of statements. -/
theorem evaluatePredicate_fails_with_more :
    let raw : Data := .list [.object [("or", .list
      [.object [("and", .list [.text "x", .object [("and", .int 5)]])], .text "y"])]]
    let a : Context := { options := ["y"] }
    let b : Context := { options := ["x", "y"] }
    a.Within b ∧ raw.named.isPositive = true ∧ evaluatePredicate a raw = .ok (true, []) ∧
      evaluatePredicate b raw = .error (.notIterable "int") := by
  intro raw a b
  have hwithin : a.Within b := ⟨rfl, by simp [a, b], fun _ ho => ho, fun _ ho => ho⟩
  exact ⟨hwithin, by decide, by decide +kernel, by decide +kernel⟩

/-- A missing list of effects becomes one, and an alternative that did not hold comes to hold. -/
theorem evaluatePredicate_mono_of_blessing :
    let p : Predicate := [.option "armed", .compound none
      (some [.option "self:effect:bless", .compound (some [.option "self:level:gte:3"]) none none])
      none]
    let raw : Data := .list [.text "armed", .object [("not", .null), ("or", .list
      [.text "self:effect:bless", .object [("and", .list [.text "self:level:gte:3"])]])]]
    let a : Context := { options := ["armed"], level := some 3, traits := some [] }
    let b : Context :=
      { options := ["raging", "armed"], level := some 3, effects := some ["bless"] }
    a.Within b ∧ Predicate.isPositive (some p) = true ∧ Predicate.holdsIn a (some p) = true ∧
      Predicate.holdsIn b (some p) = true ∧ raw.named.isPositive = true ∧
      (evaluatePredicate a raw).IsTrue ∧ raw.named.isTraversable = true ∧
      (evaluatePredicate b raw).IsTrue := by
  intro p raw a b
  have hwithin : a.Within b := ⟨rfl, by simp [a, b], by simp [a], by simp [a]⟩
  have hheld : Predicate.holdsIn a (some p) = true := by decide +kernel
  have hheldRaw : (evaluatePredicate a raw).IsTrue := ⟨[], by decide +kernel⟩
  obtain ⟨htyped, huntyped⟩ := evaluatePredicate_mono hwithin
  exact ⟨hwithin, by decide, hheld, htyped (some p) (by decide) hheld, by decide, hheldRaw,
    by decide, (huntyped raw (by decide) hheldRaw).1 (by decide)⟩

end Data

end RuleElements
