import RuleElements.Proofs.Processing.Composition
import RuleElements.Proofs.Processing.Potency

/-!
# A run without one of its rule elements

A rule element that gives an entry adds to the pool of modifiers and leaves what is there alone, and
adjustments change the modifiers of the pool one by one. So a run that does without it comes to its
end too, and gives the same but for that entry and the modifiers that it brought. These are gated
together: where the entry does not apply, the two runs cannot be told apart by what applies.

Results:
* `Entry.Coherent`, `ParsedElement.coherent_of_result?`: what an entry brings is gated as it is.
* `Processing.pool_without`: a pool without some of the modifiers it started with.
* `Processing.run_without`: what applies, with and without a rule element.
-/

namespace RuleElements

/-- **A coherent entry**: the modifiers that it adds to the pool are gated as it is. -/
def Entry.Coherent (x : Entry) : Prop := ∀ m ∈ x.modifiers, m.predicate = x.predicate

/-- An entry that brings no modifiers is coherent. -/
theorem Entry.coherent_of_modifiers {x : Entry} (h : x.modifiers = []) : x.Coherent := by
  unfold Coherent
  rw [h]
  exact fun _ hm => absurd hm List.not_mem_nil

/-- **The entry of a rule element is coherent.** Only modifiers and potency runes bring any. -/
theorem RuleElement.coherent_of_process {p : Processing} {e : RuleElement} {x : Entry}
    (h : e.process p = .made x) : x.Coherent := by
  cases x with
  | modifier m => exact fun n hn => congrArg Modifier.predicate (List.mem_singleton.mp hn)
  | weaponPotency w => exact (RuleElement.regular_of_process h).gate
  | _ => exact Entry.coherent_of_modifiers rfl

/-- The entry of a rule element of a pass is coherent. -/
theorem ParsedElement.coherent_of_result? {p : Processing} {e : ParsedElement} {x : Entry}
    (h : e.result? p = some x) : x.Coherent := by
  cases e with
  | unrecognized payload => cases h
  | known e => exact RuleElement.coherent_of_process (Attempt.result?_eq_some.mp h)

/-- A rule element that gives an entry is no adjustment. -/
theorem ParsedElement.adjustment?_of_result? {p : Processing} {e : ParsedElement} {x : Entry}
    (h : e.result? p = some x) : e.adjustment? = none := by
  cases hadj : e.adjustment? with
  | none => rfl
  | some rule =>
    rw [Accounts.result?_of_adjustment hadj] at h
    cases h

namespace Processing

variable {p : Processing} {e : ParsedElement} {x : Entry} {before after : List ParsedElement}

/-! ## The pool -/

/-- The parts of a pool are changed apart and joined again. -/
theorem readjust_append_of {ms ns ms' ns' : List Modifier} (hms : e.readjust p ms = .ok ms')
    (hns : e.readjust p ns = .ok ns') : e.readjust p (ms ++ ns) = .ok (ms' ++ ns') := by
  unfold ParsedElement.readjust at *
  cases hadj : e.adjustment? with
  | some rule =>
    rw [hadj] at hms hns
    exact AdjustModifierRule.readjust_append.mpr ⟨ms', ns', hms, hns, rfl⟩
  | none =>
    rw [hadj] at hms hns
    cases hms
    cases hns
    rfl

/-- **A pool without some of the modifiers it started with** has the rest of them as before. -/
theorem pool_without : ∀ {elements : List ParsedElement} {ms extra ns out : List Modifier},
    p.pool (ms ++ (extra ++ ns)) elements = .ok out →
      ∃ ms' extra' ns', p.pool (ms ++ ns) elements = .ok (ms' ++ ns') ∧
        out = ms' ++ (extra' ++ ns') ∧
        extra'.map Modifier.outline = extra.map Modifier.outline
  | [], ms, extra, ns, out, h => by
    cases h
    exact ⟨ms, extra, ns, rfl, rfl, rfl⟩
  | e :: rest, ms, extra, ns, out, h => by
    obtain ⟨joined, hjoined, hrest⟩ := pool_cons_eq_ok.mp h
    obtain ⟨ms₁, tail, hms, htail, rfl⟩ := readjust_append hjoined
    obtain ⟨extra₁, ns₁, hextra, hns, rfl⟩ := readjust_append htail
    rw [List.append_assoc, List.append_assoc] at hrest
    obtain ⟨ms', extra', ns', hwithout, hout, houtline⟩ := pool_without hrest
    refine ⟨ms', extra', ns', ?_, hout, ?_⟩
    · rw [← List.append_assoc] at hwithout
      exact pool_cons_eq_ok.mpr ⟨_, readjust_append_of hms hns, hwithout⟩
    · rw [houtline, ParsedElement.readjust_outline hextra]

/-- The pool of a run without one of its rule elements, which is no adjustment. -/
theorem pool_without_element {ms out : List Modifier} (other : e.adjustment? = none)
    (h : p.pool ms (before ++ e :: after) = .ok out) :
    ∃ first extra last, p.pool ms (before ++ after) = .ok (first ++ last) ∧
      out = first ++ (extra ++ last) ∧
      extra.map Modifier.outline = (e.pooled p).map Modifier.outline := by
  obtain ⟨middle, hbefore, hrest⟩ := Faulting.foldlM_append_eq_ok.mp h
  obtain ⟨kept, hkept, hafter⟩ := pool_cons_eq_ok.mp hrest
  unfold ParsedElement.readjust at hkept
  rw [other] at hkept
  cases hkept
  rw [← List.append_nil (e.pooled p)] at hafter
  obtain ⟨first, extra, last, hwithout, hout, houtline⟩ := pool_without hafter
  rw [List.append_nil] at hwithout
  exact ⟨first, extra, last, Faulting.foldlM_append_eq_ok.mpr ⟨middle, hbefore, hwithout⟩, hout,
    houtline⟩

/-! ## Runs -/

/-- Modifiers with the outlines of others that do not apply do not apply. -/
theorem filter_applies_of_outline {ctx : Context} {ms ns : List Modifier}
    (h : ms.map Modifier.outline = ns.map Modifier.outline)
    (hns : ∀ m ∈ ns, Gated.applies ctx m = false) : ms.filter (Gated.applies ctx) = [] := by
  refine List.filter_eq_nil_iff.mpr fun m hm happlies => ?_
  have hmem : m.outline ∈ ns.map Modifier.outline := h ▸ List.mem_map_of_mem hm
  obtain ⟨n, hn, houtline⟩ := List.mem_map.mp hmem
  -- the outline keeps the predicate, and with it whether the modifier applies
  have hgate : m.outline.predicate = n.outline.predicate :=
    congrArg Modifier.predicate houtline.symm
  have hsame : Gated.applies ctx m = Gated.applies ctx n := congrArg (Predicate.holdsIn ctx) hgate
  rw [hsame, hns n hn] at happlies
  cases happlies

/-- **A run without a rule element** that gives an entry comes to its end, and where that entry does
not apply, both runs give the same of what applies. -/
theorem run_without {done : Pass} (hx : e.result? p = some x)
    (h : p.run (before ++ e :: after) = .ok done) :
    ∃ rest, p.run (before ++ after) = .ok rest ∧
      ∀ ctx, Gated.applies ctx x = false → ∀ k,
        (rest.aggregate.bucket k).filter (Gated.applies ctx) =
          (done.aggregate.bucket k).filter (Gated.applies ctx) := by
  obtain ⟨cs, hcs⟩ := runFrom_account h
  obtain ⟨first, extra, last, hpool, hout, houtline⟩ :=
    pool_without_element (ParsedElement.adjustment?_of_result? hx) hcs.modifiers
  obtain ⟨rest, hrest⟩ := runFrom_ok_iff.mpr ⟨_, hpool⟩
  obtain ⟨ds, hds⟩ := runFrom_account hrest
  refine ⟨rest, hrest, fun ctx hctx k => ?_⟩
  by_cases hk : k = .flatModifier
  · obtain rfl := hk
    have hmodifiers : rest.aggregate.modifiers = first ++ last :=
      Except.ok.inj (hds.modifiers.symm.trans hpool)
    have hnone : extra.filter (Gated.applies ctx) = [] := by
      refine filter_applies_of_outline houtline fun m hm => ?_
      unfold ParsedElement.pooled at hm
      rw [hx, Option.toList_some, List.flatMap_singleton] at hm
      have hgate := ParsedElement.coherent_of_result? hx m hm
      exact (congrArg (Predicate.holdsIn ctx) hgate).trans hctx
    have happlies : done.aggregate.modifiers.filter (Gated.applies ctx) =
        rest.aggregate.modifiers.filter (Gated.applies ctx) := by
      rw [hout, hmodifiers]
      simp only [List.filter_append, hnone, List.nil_append]
    have hbucket : ∀ a : Aggregate, (a.bucket .flatModifier).filter (Gated.applies ctx) =
        (a.modifiers.filter (Gated.applies ctx)).map .modifier := fun a =>
      (Aggregate.bucket_filter ctx a .flatModifier).symm
    rw [hbucket, hbucket, happlies]
  · rw [hds.bucket k hk, hcs.bucket k hk, hds.entries_eq, hcs.entries_eq]
    simp only [List.filterMap_append, List.filterMap_cons_some hx, List.filter_append,
      List.filter_cons]
    split <;> simp [hctx]

end Processing

end RuleElements
