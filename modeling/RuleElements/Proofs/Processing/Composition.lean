import RuleElements.Proofs.Processing.Accounting

/-!
# Passes over joined lists

A pass over `xs ++ ys` is made of the passes over `xs` and over `ys`. All entries are joined kind by
kind; only the modifiers of the first part feel the second, whose adjustments act on them in order.

Main definitions:
* `Processing.resolvedAdjustments`: the adjustments of a list that can be carried out.
* `AdjustModifierRule.adjustAll`: adjustments one after the other.

Results:
* `Processing.pool_append`: a pool that starts with some modifiers is these, adjusted, and the rest.
* `Processing.runFrom_shift`: without adjustments a run does not look at what was before it.
* `Processing.run_append_parts`: a pass over a joined list by its parts.
-/

namespace RuleElements

/-- Adjustments by their numbers, one after the other. -/
def AdjustModifierRule.adjustAll (adjustments : List (AdjustModifierRule × Number))
    (ms : List Modifier) : Except ArithmeticFault (List Modifier) :=
  adjustments.foldlM (fun ms a => a.1.adjust a.2 ms) ms

/-- The adjustment that a rule element is, with its number, if that can be resolved. -/
def ParsedElement.resolved? (p : Processing) (e : ParsedElement) :
    Option (AdjustModifierRule × Number) :=
  e.adjustment?.bind fun rule => (rule.change p.level).result?.map fun change => (rule, change)

namespace Processing

variable {p : Processing}

/-- The adjustments of a list whose numbers can be resolved, in order. -/
def resolvedAdjustments (p : Processing) (elements : List ParsedElement) :
    List (AdjustModifierRule × Number) :=
  elements.filterMap (·.resolved? p)

/-! ## The pool -/

/-- A rule element changes the pool by the adjustment that it is, if that can be resolved. -/
theorem adjustAll_resolved {e : ParsedElement} {ms ms' : List Modifier}
    (h : e.readjust p ms = .ok ms') :
    AdjustModifierRule.adjustAll (e.resolved? p).toList ms = .ok ms' := by
  unfold ParsedElement.readjust at h
  unfold ParsedElement.resolved?
  cases hadj : e.adjustment? with
  | none =>
    rw [hadj] at h
    exact h
  | some rule =>
    rw [hadj] at h
    unfold AdjustModifierRule.readjust at h
    simp only at h
    split at h
    · rename_i change hchange
      simp only [Option.bind_some, hchange, Attempt.result?, Option.map_some, Option.toList_some]
      exact Faulting.foldlM_cons_eq_ok.mpr ⟨ms', h, rfl⟩
    · rename_i reasons hchange
      simp only [Option.bind_some, hchange, Attempt.result?, Option.map_none, Option.toList_none]
      exact h
    · cases h

/-- The change that the first rule element makes to the pool is the first of the adjustments. -/
theorem adjustAll_cons {e : ParsedElement} {rest : List ParsedElement} {ms ms' out : List Modifier}
    (h : e.readjust p ms = .ok ms')
    (hrest : AdjustModifierRule.adjustAll (p.resolvedAdjustments rest) ms' = .ok out) :
    AdjustModifierRule.adjustAll (p.resolvedAdjustments (e :: rest)) ms = .ok out := by
  unfold resolvedAdjustments
  rw [filterMap_cons_eq]
  exact Faulting.foldlM_append_eq_ok.mpr ⟨ms', adjustAll_resolved h, hrest⟩

/-- A rule element changes the parts of a joined pool apart. -/
theorem readjust_append {e : ParsedElement} {ms ns out : List Modifier}
    (h : e.readjust p (ms ++ ns) = .ok out) :
    ∃ ms' ns', e.readjust p ms = .ok ms' ∧ e.readjust p ns = .ok ns' ∧ out = ms' ++ ns' := by
  unfold ParsedElement.readjust at *
  split at h
  · exact AdjustModifierRule.readjust_append.mp h
  · cases h
    exact ⟨ms, ns, rfl, rfl, rfl⟩

/-- **The pool of a run that starts with some modifiers**: these after the adjustments of the run,
then the pool of the run on its own. -/
theorem pool_append : ∀ {elements : List ParsedElement} {ms ns out : List Modifier},
    p.pool (ms ++ ns) elements = .ok out →
      ∃ ms' ns', AdjustModifierRule.adjustAll (p.resolvedAdjustments elements) ms = .ok ms' ∧
        p.pool ns elements = .ok ns' ∧ out = ms' ++ ns'
  | [], ms, ns, out, h => by
    cases h
    exact ⟨ms, ns, rfl, rfl, rfl⟩
  | e :: rest, ms, ns, out, h => by
    obtain ⟨joined, hjoined, hrest⟩ := pool_cons_eq_ok.mp h
    obtain ⟨ms₁, ns₁, hms, hns, rfl⟩ := readjust_append hjoined
    rw [List.append_assoc] at hrest
    obtain ⟨ms', ns', hms', hns', rfl⟩ := pool_append hrest
    exact ⟨ms', ns', adjustAll_cons hms hms', pool_cons_eq_ok.mpr ⟨ns₁, hns, hns'⟩, rfl⟩

/-- Adjustments keep all outlines, in order. -/
theorem adjustAll_outline : ∀ {adjustments : List (AdjustModifierRule × Number)}
    {ms out : List Modifier}, AdjustModifierRule.adjustAll adjustments ms = .ok out →
      out.map Modifier.outline = ms.map Modifier.outline
  | [], ms, out, h => by
    cases h
    rfl
  | a :: rest, ms, out, h => by
    obtain ⟨ms', hms', hrest⟩ := Faulting.foldlM_cons_eq_ok.mp h
    rw [adjustAll_outline hrest]
    exact Faulting.map_of_mapM AdjustModifierRule.adjustOne_outline hms'

/-! ## Runs without adjustments -/

/-- A step other than an adjustment joins its contribution on, whatever was before. -/
theorem step_of_other {e : ParsedElement} (other : e.adjustment? = none) {pass next : Pass}
    (h : pass.step p e = .ok next) :
    ∃ c, Accounts p pass.aggregate.modifiers e c ∧
      next.aggregate = pass.aggregate ++ c.toAggregate := by
  obtain ⟨c, ms, hc, hms, hnext⟩ := Pass.step_cases h
  unfold ParsedElement.readjust at hms
  rw [other] at hms
  cases hms
  exact ⟨c, hc, hnext⟩

/-- **A run without adjustments does not look at what was before it.** -/
theorem runFrom_shift (before : Aggregate) : ∀ {elements : List ParsedElement}
    {pass alone done rest : Pass}, (∀ e ∈ elements, e.adjustment? = none) →
      pass.aggregate = before ++ alone.aggregate → p.runFrom pass elements = .ok done →
      p.runFrom alone elements = .ok rest → done.aggregate = before ++ rest.aggregate
  | [], pass, alone, done, rest, _, hpass, hdone, hrest => by
    cases hdone
    cases hrest
    exact hpass
  | e :: es, pass, alone, done, rest, hother, hpass, hdone, hrest => by
    obtain ⟨next, hstep, hnext⟩ := Faulting.foldlM_cons_eq_ok.mp hdone
    obtain ⟨next', hstep', hnext'⟩ := Faulting.foldlM_cons_eq_ok.mp hrest
    have he := hother e List.mem_cons_self
    obtain ⟨c, hc, haggregate⟩ := step_of_other he hstep
    obtain ⟨c', hc', haggregate'⟩ := step_of_other he hstep'
    obtain rfl := hc.unique hc' (.inl he)
    refine runFrom_shift before (fun x hx => hother x (List.mem_cons_of_mem _ hx)) ?_ hnext hnext'
    rw [haggregate, haggregate', hpass, Aggregate.append_assoc]

/-! ## Joined lists -/

/-- **A pass over a joined list.** If it comes to its end, so do the passes over both parts. The
entries of each kind but the modifiers are joined; the modifiers of the first part, changed by the
adjustments of the second that can be resolved, one after the other, are followed by the modifiers
of the second part on its own. An adjustment changes nothing but values and sources, and without
adjustments in the second part the aggregates are merged, remarks included. -/
theorem run_append_parts (p : Processing) {xs ys : List ParsedElement} {done : Pass}
    (h : p.run (xs ++ ys) = .ok done) :
    ∃ first second adjusted, p.run xs = .ok first ∧ p.run ys = .ok second ∧
      (∀ k, k ≠ .flatModifier →
        done.aggregate.bucket k = first.aggregate.bucket k ++ second.aggregate.bucket k) ∧
      AdjustModifierRule.adjustAll (p.resolvedAdjustments ys) first.aggregate.modifiers =
        .ok adjusted ∧
      done.aggregate.modifiers = adjusted ++ second.aggregate.modifiers ∧
      adjusted.map Modifier.outline = first.aggregate.modifiers.map Modifier.outline ∧
      ((∀ e ∈ ys, e.adjustment? = none) →
        done.aggregate = Aggregate.merge [first.aggregate, second.aggregate]) := by
  obtain ⟨first, hfirst, hrest⟩ := Faulting.foldlM_append_eq_ok.mp h
  obtain ⟨cs, hcs⟩ := runFrom_account hrest
  have hpool := hcs.modifiers
  rw [← List.append_nil first.aggregate.modifiers] at hpool
  obtain ⟨adjusted, ns, hadjusted, hns, hmodifiers⟩ := pool_append hpool
  obtain ⟨second, hsecond⟩ : ∃ second, p.run ys = .ok second := runFrom_ok_iff.mpr ⟨ns, hns⟩
  obtain ⟨ds, hds⟩ := runFrom_account hsecond
  have halone := hds.modifiers.symm.trans hns
  cases halone
  refine ⟨first, second, adjusted, hfirst, hsecond, fun k hk => ?_, hadjusted, hmodifiers,
    adjustAll_outline hadjusted, fun hother => ?_⟩
  · rw [hcs.bucket k hk, hds.bucket k hk, hcs.entries_eq, hds.entries_eq]
    exact congrArg (_ ++ ·) (congrArg (· ++ _) (Aggregate.bucket_empty k)).symm
  · rw [runFrom_shift first.aggregate hother (Aggregate.append_empty _).symm hrest hsecond]
    exact congrArg (· ++ second.aggregate) (Aggregate.empty_append first.aggregate).symm

/-- A bonus and a rune, then an adjustment of the bonus and a bonus that it does not see. -/
theorem run_append_parts_of_adjustment :
    let p : Processing := { source := "Sword", level := 3 }
    let bonus (label : String) : ParsedElement :=
      .known ⟨some label, none, .flatModifier ⟨"ac", .number (.integer 1), none, none, none⟩⟩
    let xs : List ParsedElement :=
      [bonus "Early", .known ⟨none, none, .weaponPotency ⟨.number (.integer 5), none⟩⟩]
    let ys : List ParsedElement :=
      [.known ⟨none, none, .adjustModifier ⟨"ac", none, none, some (.number (.integer 4))⟩⟩,
        bonus "Late"]
    ∃ done first second adjusted, p.run (xs ++ ys) = .ok done ∧ p.run xs = .ok first ∧
      p.run ys = .ok second ∧
      AdjustModifierRule.adjustAll (p.resolvedAdjustments ys) first.aggregate.modifiers =
        .ok adjusted ∧
      done.aggregate.modifiers = adjusted ++ second.aggregate.modifiers ∧
      done.aggregate.modifiers.map (·.value) = [5, 3, 3, 1].map .integer := by
  intro p bonus xs ys
  obtain ⟨done, h, hvalues⟩ : ∃ done, p.run (xs ++ ys) = .ok done ∧
      done.aggregate.modifiers.map (·.value) = [5, 3, 3, 1].map .integer := ⟨_, rfl, rfl⟩
  obtain ⟨first, second, adjusted, hfirst, hsecond, -, hadjusted, hmodifiers, -⟩ :=
    run_append_parts p h
  exact ⟨done, first, second, adjusted, h, hfirst, hsecond, hadjusted, hmodifiers, hvalues⟩

end Processing

end RuleElements
