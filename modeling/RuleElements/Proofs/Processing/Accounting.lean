import Mathlib.Tactic.Linarith
import RuleElements.Proofs.Processing.Step

/-!
# Every rule element is accounted for

A pass drops nothing and counts nothing twice: each rule element leaves one remark or one entry,
and the aggregate is made of these in order. A potency rune, besides, brings two modifiers.

Main definitions:
* `ParsedElement.kind?`: the kind of a rule element that is understood.
* `Aggregate.balance`: remarks and entries, the two modifiers of every potency rune not counted.

Results:
* `Account.modifiers_outline`: the modifiers of a run are those of its entries, up to adjustments.
* `Processing.balance_runFrom`: each rule element raises the balance by one.
* `Processing.mem_bucket_of_run`: where the entries in a bucket come from.
* `Processing.run_accounts_for_each`: the contributions of a run, one for each rule element.
-/

namespace RuleElements

/-- The kind of a rule element, if it is understood. -/
def ParsedElement.kind? : ParsedElement → Option Kind
  | .known e => some e.kind
  | .unrecognized _ => none

/-! ## Kinds -/

/-- An entry has the kind of the rule element that gives it. -/
theorem RuleElement.kind_of_process {p : Processing} {e : RuleElement} {x : Entry}
    (h : e.process p = .made x) : x.kind = e.kind := by
  obtain ⟨label, predicate, effect⟩ := e
  have hmap {α : Type} {a : Attempt α} {f : α → Entry} {x : Entry} {k : Kind}
      (hf : ∀ v, (f v).kind = k) (h : a.map f = .made x) : x.kind = k := by
    cases a <;> cases h
    exact hf _
  cases effect with
  | flatModifier rule => exact hmap (fun _ => rfl) h
  | adjustModifier rule => cases h
  | damageDice rule => cases h; rfl
  | baseSpeed rule => exact hmap (fun _ => rfl) h
  | sense rule => cases h; rfl
  | grantItem rule =>
    simp only [process, Processing.grantItem] at h
    split at h
    · cases h
    · split at h <;> cases h
      rfl
  | choiceSet rule =>
    simp only [process, Processing.choiceSet] at h
    split at h <;> cases h
    rfl
  | activeEffectLike rule =>
    simp only [process, Processing.activeEffect] at h
    split at h
    · exact hmap (fun _ => rfl) h
    · cases h
  | rollOption rule => cases h; rfl
  | toggleProperty rule => cases h; rfl
  | weaponPotency rule => exact hmap (fun _ => rfl) h
  | striking rule => exact hmap (fun _ => rfl) h
  | tempHP rule => exact hmap (fun _ => rfl) h
  | fastHealing rule => exact hmap (fun _ => rfl) h
  | resistance rule => exact hmap (fun _ => rfl) h
  | weakness rule => exact hmap (fun _ => rfl) h
  | immunity rule => cases h; rfl
  | creatureSize rule => cases h; rfl
  | actorTraits rule => cases h; rfl

/-- An entry that is contributed has the kind of its rule element. -/
theorem Accounts.kind?_eq {p : Processing} {ms : List Modifier} {e : ParsedElement}
    {c : Contribution} (h : Accounts p ms e c) {x : Entry} (hx : c.result? = some x) :
    e.kind? = some x.kind := by
  cases h with
  | entered _ made =>
    cases hx
    exact congrArg some (RuleElement.kind_of_process made).symm
  | skipped payload => cases hx
  | unresolved => cases hx
  | applied => cases hx
  | unmatched => cases hx
  | inert => cases hx
  | failed => cases hx

/-! ## The pool of modifiers -/

namespace ParsedElement

variable {p : Processing} {e : ParsedElement} {ms out : List Modifier}

/-- A rule element keeps the outlines of the modifiers before it. -/
theorem readjust_outline (h : e.readjust p ms = .ok out) :
    out.map Modifier.outline = ms.map Modifier.outline := by
  unfold readjust at h
  split at h
  · exact AdjustModifierRule.readjust_outline h
  · cases h
    rfl

end ParsedElement

/-- **The outlines of a pool** are those of the modifiers that were put in, in order. -/
theorem Processing.pool_outline {p : Processing} : ∀ {elements : List ParsedElement}
    {ms out : List Modifier}, p.pool ms elements = .ok out →
      out.map Modifier.outline = (ms ++ elements.flatMap (·.pooled p)).map Modifier.outline
  | [], ms, out, h => by
    cases h
    simp
  | e :: rest, ms, out, h => by
    obtain ⟨ms', hms', hrest⟩ := Processing.pool_cons_eq_ok.mp h
    rw [Processing.pool_outline hrest, List.flatMap_cons]
    simp only [List.map_append, List.append_assoc, ParsedElement.readjust_outline hms']

namespace Account

variable {p : Processing} {start done : Aggregate} {elements : List ParsedElement}
  {cs : List Contribution}

/-- The entries of a run are those that its rule elements give on their own. -/
theorem entries_eq (h : Account p start elements cs done) :
    cs.filterMap (·.result?) = elements.filterMap (·.result? p) := by
  have heach := h.each
  clear h
  induction heach with
  | nil => rfl
  | cons hc _ ih =>
    obtain ⟨ms, hc⟩ := hc
    rw [Processing.filterMap_cons_eq, Processing.filterMap_cons_eq, hc.result?_eq, ih]

/-- The modifiers of a run are those of its entries, but for adjustments. -/
theorem modifiers_outline (h : Account p start elements cs done) :
    done.modifiers.map Modifier.outline =
      (start.modifiers ++ (cs.filterMap (·.result?)).flatMap Entry.modifiers).map
        Modifier.outline := by
  have hpooled : elements.flatMap (·.pooled p) =
      (elements.filterMap (·.result? p)).flatMap Entry.modifiers := by
    clear h
    induction elements with
    | nil => rfl
    | cons e rest ih =>
      rw [List.flatMap_cons, ih, Processing.filterMap_cons_eq, List.flatMap_append]
      rfl
  rw [Processing.pool_outline h.modifiers, hpooled, h.entries_eq]

end Account

/-! ## The count -/

namespace Aggregate

/-- The number of remarks and entries, but for the modifiers of potency runes. -/
def balance (a : Aggregate) : Int :=
  a.logs.length + a.total - 2 * a.weaponPotencies.length

theorem balance_append (a b : Aggregate) : (a ++ b).balance = a.balance + b.balance := by
  have hruns : (a ++ b).weaponPotencies = a.weaponPotencies ++ b.weaponPotencies := rfl
  unfold balance
  rw [total_append, logs_append, hruns, List.length_append, List.length_append]
  push_cast
  ring

/-- Other modifiers in the same number do not change the balance. -/
theorem balance_withModifiers (a : Aggregate) {ms : List Modifier}
    (h : ms.length = a.modifiers.length) : (a.withModifiers ms).balance = a.balance := by
  simp only [balance, total, withModifiers, h]

end Aggregate

/-- A contribution counts for one. -/
theorem Contribution.balance_toAggregate (c : Contribution) : c.toAggregate.balance = 1 := by
  cases c with
  | remark text => rfl
  | entry x => cases x <;> rfl

/-- **The count.** Each rule element of a run raises the balance by one. -/
theorem Processing.balance_runFrom {p : Processing} {done : Pass} :
    ∀ {elements : List ParsedElement} {pass : Pass}, p.runFrom pass elements = .ok done →
      done.aggregate.balance = pass.aggregate.balance + elements.length
  | [], pass, h => by
    cases h
    simp
  | e :: rest, pass, h => by
    obtain ⟨next, hstep, hrest⟩ := Faulting.foldlM_cons_eq_ok.mp h
    obtain ⟨c, ms, -, hms, hnext⟩ := Pass.step_cases hstep
    have hlength : ms.length = pass.aggregate.modifiers.length := by
      have := congrArg List.length (ParsedElement.readjust_outline hms)
      rwa [List.length_map, List.length_map] at this
    rw [Processing.balance_runFrom hrest, hnext, Aggregate.balance_append,
      Aggregate.balance_withModifiers _ hlength, c.balance_toAggregate, List.length_cons]
    push_cast
    ring

/-! ## Runs -/

/-- The entries in a bucket of a pass are those of its rule elements. -/
theorem Processing.mem_bucket_of_run {p : Processing} {elements : List ParsedElement} {done : Pass}
    (h : p.run elements = .ok done) {k : Kind} (hk : k ≠ .flatModifier) {x : Entry} :
    x ∈ done.aggregate.bucket k ↔
      x.kind = k ∧ ∃ e, ParsedElement.known e ∈ elements ∧ e.process p = .made x := by
  obtain ⟨cs, hcs⟩ := runFrom_account h
  have hbucket := hcs.bucket k hk
  rw [hcs.entries_eq, show (({} : Pass).aggregate).bucket k = [] from Aggregate.bucket_empty k,
    List.nil_append] at hbucket
  rw [hbucket, List.mem_filter, List.mem_filterMap, decide_eq_true_eq, and_comm]
  refine and_congr_right fun _ => ⟨?_, ?_⟩
  · rintro ⟨e, he, hx⟩
    cases e with
    | unrecognized payload => cases hx
    | known e => exact ⟨e, he, Attempt.result?_eq_some.mp hx⟩
  · rintro ⟨e, he, hx⟩
    exact ⟨.known e, he, Attempt.result?_eq_some.mpr hx⟩

/-- **Every rule element is accounted for once.** A run that comes to its end has a list of
contributions, one for each rule element in order: a remark, or an entry of the kind of the rule
element. The bucket of a kind holds the entries of that kind, the pool holds the modifiers of the
entries with only values and sources adjusted, and the log holds the remarks, all in order; hence
the count. -/
theorem Processing.run_accounts_for_each (p : Processing) {elements : List ParsedElement}
    {done : Pass} (h : p.run elements = .ok done) :
    ∃ cs : List Contribution,
      List.Forall₂ (fun e c => (∃ ms, Accounts p ms e c) ∧
        ∀ x, c.result? = some x → e.kind? = some x.kind) elements cs ∧
      (∀ k, k ≠ .flatModifier →
        done.aggregate.bucket k = (cs.filterMap (·.result?)).filter (·.kind = k)) ∧
      done.aggregate.modifiers.map Modifier.outline =
        ((cs.filterMap (·.result?)).flatMap Entry.modifiers).map Modifier.outline ∧
      done.aggregate.logs = cs.filterMap (·.line?) ∧
      (done.aggregate.logs.length : Int) + done.aggregate.total -
        2 * done.aggregate.weaponPotencies.length = elements.length := by
  obtain ⟨cs, hcs⟩ := Processing.runFrom_account h
  refine ⟨cs, ?_, fun k hk => ?_, ?_, ?_, ?_⟩
  · exact hcs.each.imp fun e c ⟨ms, hc⟩ => ⟨⟨ms, hc⟩, fun x hx => hc.kind?_eq hx⟩
  · rw [hcs.bucket k hk]
    exact congrArg (· ++ _) (Aggregate.bucket_empty k)
  · rw [hcs.modifiers_outline]
    rfl
  · rw [hcs.logs]
    rfl
  · have := Processing.balance_runFrom h
    rw [show (({} : Pass).aggregate).balance = 0 from rfl, zero_add] at this
    exact this

/-- A rune, an adjustment of what it brings, and a payload that is not understood. -/
theorem Processing.run_accounts_for_each_of_rune :
    let p : Processing := { source := "Sword", level := 3 }
    let elements : List ParsedElement :=
      [.known ⟨some "Edge", none, .flatModifier ⟨"attack", .number (.integer 1), none, none, none⟩⟩,
        .known ⟨none, none, .weaponPotency ⟨.number (.integer 5), none⟩⟩,
        .known ⟨none, none, .adjustModifier
          ⟨"strike-attack-roll", none, none, some (.number (.integer 1))⟩⟩,
        .unrecognized ⟨"Glow", [], "unsupported kind"⟩]
    ∃ done, p.run elements = .ok done ∧ done.aggregate.modifiers.length = 3 ∧
      (done.aggregate.logs.length : Int) + done.aggregate.total -
        2 * done.aggregate.weaponPotencies.length = elements.length := by
  intro p elements
  have hrun : ∃ done, p.run elements = .ok done ∧ done.aggregate.modifiers.length = 3 :=
    ⟨_, rfl, rfl⟩
  obtain ⟨done, h, hpool⟩ := hrun
  obtain ⟨cs, -, -, -, -, hcount⟩ := Processing.run_accounts_for_each p h
  exact ⟨done, h, hpool, hcount⟩

end RuleElements
