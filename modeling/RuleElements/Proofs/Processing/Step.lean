import Mathlib.Data.List.Forall2
import RuleElements.Processing.Pass
import RuleElements.Proofs.Processing.Adjustment

/-!
# What a step of a pass does

A rule element of a pass does two things. It may change the pool of modifiers so far, if it is an
adjustment; and it contributes one remark or one entry, which is joined on at the end. `step_cases`
says so once for all the ways through the loop, and `runFrom_account` for whole runs.

Main definitions:
* `Contribution`: a remark or an entry.
* `Accounts`: which contributions a rule element can make.
* `Processing.pool`: the modifiers of a run, computed on their own.
* `Account`: what a run adds to an aggregate, element by element.

Results:
* `Pass.step_cases`, `Pass.step_eq_error_iff`: all that a step can do.
* `Processing.runFrom_account`: what a run that comes to its end has done.
* `Processing.runFrom_ok_iff`: a run comes to its end exactly if its pool can be computed.
-/

namespace RuleElements

/-- What a rule element adds to an aggregate. -/
inductive Contribution
  | remark (text : String)
  | entry (entry : Entry)

namespace Contribution

/-- The remark as it stands in the aggregate, if there is one. -/
def line? : Contribution → Option String
  | .remark text => some ("[Rules] " ++ text)
  | .entry _ => none

/-- The entry, if there is one. -/
def result? : Contribution → Option Entry
  | .remark _ => none
  | .entry x => some x

/-- The aggregate of a contribution alone. -/
def toAggregate : Contribution → Aggregate
  | .remark text => .ofLine ("[Rules] " ++ text)
  | .entry x => x.toAggregate

theorem logs_toAggregate (c : Contribution) : c.toAggregate.logs = c.line?.toList := by
  cases c with
  | remark text => rfl
  | entry x => exact x.logs_toAggregate

theorem modifiers_toAggregate (c : Contribution) :
    c.toAggregate.modifiers = c.result?.toList.flatMap Entry.modifiers := by
  cases c with
  | remark text => rfl
  | entry x => simp [toAggregate, result?]

theorem bucket_toAggregate (c : Contribution) {k : Kind} (hk : k ≠ .flatModifier) :
    c.toAggregate.bucket k = c.result?.toList.filter (·.kind = k) := by
  cases c with
  | remark text => exact Aggregate.bucket_ofLine _ k
  | entry x => exact x.bucket_toAggregate hk

end Contribution

/-! ## Rule elements -/

namespace ParsedElement

/-- The adjustment that a rule element is, if it is one. -/
def adjustment? : ParsedElement → Option AdjustModifierRule
  | .known ⟨_, _, .adjustModifier rule⟩ => some rule
  | _ => none

/-- The pool of modifiers after a rule element has changed it. -/
def readjust (p : Processing) (e : ParsedElement) (ms : List Modifier) :
    Except ArithmeticFault (List Modifier) :=
  match e.adjustment? with
  | some rule => rule.readjust p.level ms
  | none => .ok ms

/-- The entry that a rule element gives, if it gives one. -/
def result? (p : Processing) : ParsedElement → Option Entry
  | .known e => (e.process p).result?
  | .unrecognized _ => none

/-- The modifiers that a rule element adds to the pool. -/
def pooled (p : Processing) (e : ParsedElement) : List Modifier :=
  (e.result? p).toList.flatMap Entry.modifiers

end ParsedElement

/-- **The contribution of a rule element** to a pass with some modifiers so far, by the ways through
a step. Only the remark on an adjustment looks at the modifiers. -/
inductive Accounts (p : Processing) (ms : List Modifier) : ParsedElement → Contribution → Prop
  | skipped (payload : Unrecognized) :
      Accounts p ms (.unrecognized payload) (.remark (Pass.skipText p payload))
  | unresolved {e : RuleElement} {rule : AdjustModifierRule} {reasons : List LogLine}
      (adjusts : (ParsedElement.known e).adjustment? = some rule)
      (inert : rule.change p.level = .inert reasons) :
      Accounts p ms (.known e) (.remark (Pass.unresolvedText p rule))
  | applied {e : RuleElement} {rule : AdjustModifierRule} {change : Number}
      (adjusts : (ParsedElement.known e).adjustment? = some rule)
      (resolved : rule.change p.level = .made change) (fits : ms.any rule.fits = true) :
      Accounts p ms (.known e) (.remark (Pass.appliedText p rule))
  | unmatched {e : RuleElement} {rule : AdjustModifierRule} {change : Number}
      (adjusts : (ParsedElement.known e).adjustment? = some rule)
      (resolved : rule.change p.level = .made change) (fits : ms.any rule.fits = false) :
      Accounts p ms (.known e) (.remark (Pass.unmatchedText p rule))
  | entered {e : RuleElement} {entry : Entry} (other : (ParsedElement.known e).adjustment? = none)
      (made : e.process p = .made entry) : Accounts p ms (.known e) (.entry entry)
  | inert {e : RuleElement} {reasons : List LogLine}
      (other : (ParsedElement.known e).adjustment? = none)
      (inert : e.process p = .inert reasons) :
      Accounts p ms (.known e) (.remark (Pass.inertText p e))
  | failed {e : RuleElement} {fault : ArithmeticFault}
      (other : (ParsedElement.known e).adjustment? = none)
      (failed : e.process p = .failed fault) :
      Accounts p ms (.known e) (.remark (Pass.failureText p e fault))

namespace Accounts

variable {p : Processing} {ms ns : List Modifier} {e : ParsedElement} {c c' : Contribution}

/-- An adjustment gives no entry of its own. -/
theorem result?_of_adjustment {rule : AdjustModifierRule} (h : e.adjustment? = some rule) :
    e.result? p = none := by
  cases e with
  | unrecognized payload => rfl
  | known e =>
    obtain ⟨label, predicate, effect⟩ := e
    cases effect <;> first | rfl | cases h

/-- The entry of a contribution is the one that the rule element gives on its own. -/
theorem result?_eq (h : Accounts p ms e c) : c.result? = e.result? p := by
  cases h with
  | skipped payload => rfl
  | unresolved adjusts => exact (result?_of_adjustment adjusts).symm
  | applied adjusts => exact (result?_of_adjustment adjusts).symm
  | unmatched adjusts => exact (result?_of_adjustment adjusts).symm
  | entered _ made => simp [Contribution.result?, ParsedElement.result?, made, Attempt.result?]
  | inert _ inert => simp [Contribution.result?, ParsedElement.result?, inert, Attempt.result?]
  | failed _ failed => simp [Contribution.result?, ParsedElement.result?, failed, Attempt.result?]

/-- The contribution is determined by the rule element and, for an adjustment, by the modifiers
before it. -/
theorem unique (h : Accounts p ms e c) (h' : Accounts p ns e c')
    (same : e.adjustment? = none ∨ ms = ns) : c = c' := by
  rcases same with other | rfl
  · cases h <;> cases h' <;> simp_all
  · cases h <;> cases h' <;> grind

end Accounts

/-! ## Steps -/

namespace Pass

variable {p : Processing} {pass next : Pass} {e : ParsedElement}

theorem step_known (p : Processing) (pass : Pass) (e : RuleElement) :
    pass.step p (.known e) =
      match (ParsedElement.known e).adjustment? with
      | some rule => pass.adjust p rule
      | none => .ok (pass.take p e) := by
  obtain ⟨label, predicate, effect⟩ := e
  cases effect <;> rfl

/-- The aggregate after a remark. -/
theorem aggregate_remark (pass : Pass) (severity : Severity) (text : String) :
    (pass.remark severity text).aggregate =
      pass.aggregate ++ (Contribution.remark text).toAggregate :=
  Aggregate.note_eq_append _ _

/-- A rule element other than an adjustment makes its contribution. -/
theorem take_cases (p : Processing) (pass : Pass) {e : RuleElement}
    (other : (ParsedElement.known e).adjustment? = none) :
    ∃ c, Accounts p pass.aggregate.modifiers (.known e) c ∧
      (pass.take p e).aggregate = pass.aggregate ++ c.toAggregate := by
  unfold take
  cases h : e.process p with
  | made entry => exact ⟨_, .entered other h, Aggregate.insert_eq_append _ _⟩
  | inert reasons => exact ⟨_, .inert other h, aggregate_remark _ _ _⟩
  | failed fault => exact ⟨_, .failed other h, aggregate_remark _ _ _⟩

/-- An adjustment changes the pool and makes its remark. -/
theorem adjust_cases {rule : AdjustModifierRule} {e : RuleElement}
    (adjusts : (ParsedElement.known e).adjustment? = some rule)
    (h : pass.adjust p rule = .ok next) :
    ∃ c ms, Accounts p pass.aggregate.modifiers (.known e) c ∧
      rule.readjust p.level pass.aggregate.modifiers = .ok ms ∧
      next.aggregate = pass.aggregate.withModifiers ms ++ c.toAggregate := by
  unfold adjust at h
  unfold AdjustModifierRule.readjust
  split at h
  · cases h
  · rename_i reasons hchange
    cases h
    rw [hchange]
    exact ⟨_, _, .unresolved adjusts hchange, rfl, aggregate_remark _ _ _⟩
  · rename_i change hchange
    rw [hchange]
    simp only
    split at h
    · rename_i hfit
      split at h
      · cases h
      · rename_i ms hms
        cases h
        exact ⟨_, ms, .applied adjusts hchange hfit, hms, aggregate_remark _ _ _⟩
    · rename_i hfit
      cases h
      have hnone := Bool.eq_false_iff.mpr hfit
      have hkeep := rule.adjust_of_no_fit change hnone
      exact ⟨_, _, .unmatched adjusts hchange hnone, hkeep, aggregate_remark _ _ _⟩

/-- **All that a step can do.** The pool is changed as the rule element says, and one contribution
is joined on. -/
theorem step_cases (h : pass.step p e = .ok next) :
    ∃ c ms, Accounts p pass.aggregate.modifiers e c ∧
      e.readjust p pass.aggregate.modifiers = .ok ms ∧
      next.aggregate = pass.aggregate.withModifiers ms ++ c.toAggregate := by
  cases e with
  | unrecognized payload =>
    cases h
    exact ⟨_, _, .skipped payload, rfl, aggregate_remark _ _ _⟩
  | known e =>
    rw [step_known] at h
    unfold ParsedElement.readjust
    cases hadj : (ParsedElement.known e).adjustment? with
    | some rule =>
      rw [hadj] at h
      exact adjust_cases hadj h
    | none =>
      rw [hadj] at h
      cases h
      obtain ⟨c, hc, haggregate⟩ := take_cases p pass hadj
      exact ⟨c, _, hc, rfl, haggregate⟩

/-- **When a step fails**: the change of the pool fails. -/
theorem step_eq_error_iff (fault : ArithmeticFault) :
    pass.step p e = .error fault ↔ e.readjust p pass.aggregate.modifiers = .error fault := by
  cases e with
  | unrecognized payload => simp [step, ParsedElement.readjust, ParsedElement.adjustment?]
  | known e =>
    rw [step_known]
    unfold ParsedElement.readjust
    cases hadj : (ParsedElement.known e).adjustment? with
    | none => simp
    | some rule =>
      simp only
      unfold adjust AdjustModifierRule.readjust
      cases hchange : rule.change p.level with
      | failed f => simp
      | inert reasons => simp
      | made change =>
        simp only
        by_cases hfit : pass.aggregate.modifiers.any rule.fits = true
        · rw [if_pos hfit]
          cases rule.adjust change pass.aggregate.modifiers <;> simp
        · rw [if_neg hfit, rule.adjust_of_no_fit change (Bool.eq_false_iff.mpr hfit)]
          simp

/-- The pool after a step. -/
theorem modifiers_step (h : pass.step p e = .ok next) {ms : List Modifier}
    (hms : e.readjust p pass.aggregate.modifiers = .ok ms) :
    next.aggregate.modifiers = ms ++ e.pooled p := by
  obtain ⟨c, ms', hc, hms', hnext⟩ := step_cases h
  rw [hms] at hms'
  cases hms'
  rw [hnext, Aggregate.modifiers_append, Aggregate.modifiers_withModifiers,
    c.modifiers_toAggregate, hc.result?_eq]
  rfl

end Pass

/-! ## Runs -/

namespace Processing

/-- The modifiers of a run that starts with some, computed on their own. -/
def pool (p : Processing) (ms : List Modifier) (elements : List ParsedElement) :
    Except ArithmeticFault (List Modifier) :=
  elements.foldlM (fun ms e => (e.readjust p ms).map (· ++ e.pooled p)) ms

theorem pool_cons_eq_ok {p : Processing} {ms out : List Modifier} {e : ParsedElement}
    {rest : List ParsedElement} :
    p.pool ms (e :: rest) = .ok out ↔
      ∃ ms', e.readjust p ms = .ok ms' ∧ p.pool (ms' ++ e.pooled p) rest = .ok out := by
  unfold pool
  rw [Faulting.foldlM_cons_eq_ok]
  constructor
  · rintro ⟨next, hnext, h⟩
    obtain ⟨ms', hms', rfl⟩ := Faulting.map_eq_ok.mp hnext
    exact ⟨ms', hms', h⟩
  · rintro ⟨ms', hms', h⟩
    exact ⟨_, Faulting.map_eq_ok.mpr ⟨ms', hms', rfl⟩, h⟩

end Processing

/-- **What a run adds to an aggregate**, with the contribution of each rule element. -/
structure Account (p : Processing) (start : Aggregate) (elements : List ParsedElement)
    (contributions : List Contribution) (done : Aggregate) : Prop where
  each : List.Forall₂ (fun e c => ∃ ms, Accounts p ms e c) elements contributions
  modifiers : p.pool start.modifiers elements = .ok done.modifiers
  bucket : ∀ k, k ≠ .flatModifier →
    done.bucket k = start.bucket k ++ (contributions.filterMap (·.result?)).filter (·.kind = k)
  logs : done.logs = start.logs ++ contributions.filterMap (·.line?)

namespace Processing

variable {p : Processing} {pass done : Pass}

/-- The results at the head of a list come first. -/
theorem filterMap_cons_eq {α β : Type} (f : α → Option β) (x : α) (xs : List α) :
    (x :: xs).filterMap f = (f x).toList ++ xs.filterMap f := by
  cases h : f x <;> simp [h]

/-- **A run that comes to its end** has taken account of every rule element. -/
theorem runFrom_account : ∀ {elements : List ParsedElement} {pass : Pass},
    p.runFrom pass elements = .ok done →
      ∃ cs, Account p pass.aggregate elements cs done.aggregate
  | [], pass, h => by
    cases h
    exact ⟨[], .nil, rfl, by simp, by simp⟩
  | e :: rest, pass, h => by
    obtain ⟨next, hstep, hrest⟩ := Faulting.foldlM_cons_eq_ok.mp h
    obtain ⟨c, ms, hc, hms, hnext⟩ := Pass.step_cases hstep
    obtain ⟨cs, hcs⟩ := runFrom_account hrest
    refine ⟨c :: cs, .cons ⟨_, hc⟩ hcs.each, ?_, fun k hk => ?_, ?_⟩
    · refine pool_cons_eq_ok.mpr ⟨ms, hms, ?_⟩
      rw [← Pass.modifiers_step hstep hms]
      exact hcs.modifiers
    · rw [hcs.bucket k hk, hnext, Aggregate.bucket_append, Aggregate.bucket_withModifiers _ _ hk,
        c.bucket_toAggregate hk, List.append_assoc, filterMap_cons_eq, List.filter_append]
    · rw [hcs.logs, hnext, Aggregate.logs_append, Aggregate.logs_withModifiers, c.logs_toAggregate,
        List.append_assoc, filterMap_cons_eq]

/-- **A run comes to its end** exactly if its pool of modifiers can be computed. -/
theorem runFrom_ok_iff : ∀ {elements : List ParsedElement} {pass : Pass},
    (∃ done, p.runFrom pass elements = .ok done) ↔
      ∃ ms, p.pool pass.aggregate.modifiers elements = .ok ms
  | [], pass => ⟨fun _ => ⟨_, rfl⟩, fun _ => ⟨_, rfl⟩⟩
  | e :: rest, pass => by
    constructor
    · rintro ⟨done, h⟩
      obtain ⟨cs, hcs⟩ := runFrom_account h
      exact ⟨_, hcs.modifiers⟩
    · rintro ⟨ms, h⟩
      obtain ⟨ms', hms', hrest⟩ := pool_cons_eq_ok.mp h
      cases hstep : pass.step p e with
      | error fault => rw [Pass.step_eq_error_iff, hms'] at hstep; cases hstep
      | ok next =>
        rw [← Pass.modifiers_step hstep hms'] at hrest
        obtain ⟨done, hdone⟩ := runFrom_ok_iff.mpr ⟨ms, hrest⟩
        exact ⟨done, Faulting.foldlM_cons_eq_ok.mpr ⟨next, hstep, hdone⟩⟩

end Processing

end RuleElements
