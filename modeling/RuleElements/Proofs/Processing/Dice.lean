import RuleElements.Character.Damage
import RuleElements.Proofs.Element.Restore
import RuleElements.Proofs.Fields
import RuleElements.Proofs.Processing.Accounting

/-!
# Numbers of damage dice

Damage dice that are read have been checked: their die and that of their replacements are written as
a `d` and digits, and their number is not negative. The number of their replacements is not checked.
So the dice of a pass have a proper size, but their number is negative exactly where that of their
replacements is; and pools are sums of such numbers.

Main definitions:
* `DamageDiceRule.LowersNumber`: dice whose replacements have a negative number.
* `Processing.LowersDice`: rules with such dice among them.

Results:
* `DamageDiceRule.faults_eq_nil_iff`: what the check on reading asks for.
* `isDie_of_damageDice`, `diceNumber_neg_iff`: size and number of the dice of a rule element.
* `Processing.mem_damageDice_of_runRaw`: where the dice of a pass come from.
* `Processing.isDie_of_runRaw`: they have a proper die.
* `Processing.diceNumbers_nonneg_iff`: when their numbers are not negative.
* `DamageDice.pools_nonneg`: pools of dice without negative numbers.
* `Processing.run_dice_iff`: sizes, numbers and pools of the dice of a pass.
-/

namespace RuleElements

/-- A die is a `d` with digits after it. -/
theorem isDie_iff {s : String} : isDie s = true ↔
    ∃ digits, s.toList = 'd' :: digits ∧ digits ≠ [] ∧ ∀ c ∈ digits, Text.isDigit c = true := by
  unfold isDie
  split
  · rename_i digits hs
    simp [hs]
  · rename_i hs
    refine ⟨fun h => absurd h Bool.false_ne_true, ?_⟩
    rintro ⟨digits, heq, -⟩
    exact absurd heq (hs digits)

theorem eq_some_of_nonEmpty? {o : Option String} {s : String} (h : nonEmpty? o = some s) :
    o = some s := by
  unfold nonEmpty? at h
  split at h
  · cases h
  · exact h

/-! ## Rule elements -/

namespace DamageDiceRule

variable {rule : DamageDiceRule}

/-- **What is checked when dice are read**: both dice, but only the first of the two numbers. -/
theorem faults_eq_nil_iff : rule.faults = [] ↔
    (∀ die ∈ rule.dieSize, isDie die = true) ∧
      (∀ die ∈ rule.override.bind (·.dieSize), isDie die = true) ∧
      ∀ n ∈ rule.diceNumber, 0 ≤ n := by
  have hdice : ∀ o o' : Option String, ([o, o'].filterMap id).filter (!isDie ·) = [] ↔
      (∀ die ∈ o, isDie die = true) ∧ ∀ die ∈ o', isDie die = true := by
    intro o o'
    cases o <;> cases o' <;> simp
  have hnumber : (if rule.diceNumber.any (· < 0) then ["diceNumber must be >= 0"] else []) = [] ↔
      ∀ n ∈ rule.diceNumber, 0 ≤ n := by
    cases rule.diceNumber <;> simp
  unfold faults
  rw [List.append_eq_nil_iff, List.map_eq_nil_iff, hdice, hnumber, and_assoc]

/-- **Dice whose replacements have a negative number.** -/
def LowersNumber (rule : DamageDiceRule) : Prop :=
  ∃ n ∈ rule.override.bind (·.diceNumber), n < 0

end DamageDiceRule

variable {p : Processing} {predicate : Option Predicate} {rule : DamageDiceRule} {d : DamageDice}

/-- **Dice that passed the check have a proper die.** -/
theorem isDie_of_damageDice (hfaults : rule.faults = [])
    (h : p.damageDice predicate rule = .damageDice d) : isDie d.dieSize = true := by
  obtain ⟨hdie, hreplaced, -⟩ := DamageDiceRule.faults_eq_nil_iff.mp hfaults
  cases h
  cases hsize : (nonEmpty? (rule.override.bind (·.dieSize))).or (nonEmpty? rule.dieSize) with
  | none => exact (by decide +kernel : isDie "d6" = true)
  | some die =>
    rcases Option.or_eq_some_iff.mp hsize with h | ⟨-, h⟩
    · exact hreplaced die (eq_some_of_nonEmpty? h)
    · exact hdie die (eq_some_of_nonEmpty? h)

/-- **Dice that passed the check have a negative number** only from their replacements. -/
theorem diceNumber_neg_iff (hfaults : rule.faults = [])
    (h : p.damageDice predicate rule = .damageDice d) : d.diceNumber < 0 ↔ rule.LowersNumber := by
  obtain ⟨-, -, hnumber⟩ := DamageDiceRule.faults_eq_nil_iff.mp hfaults
  cases h
  unfold DamageDiceRule.LowersNumber
  cases rule.override.bind (·.diceNumber) with
  | some n => simp
  | none =>
    cases hown : rule.diceNumber with
    | none => simp
    | some n => simpa using hnumber n hown

/-! ## Passes -/

namespace Processing

variable {done : Pass}

/-- **The dice of a pass over payloads** are those of the rule elements for dice among them. -/
theorem mem_damageDice_of_runRaw {rules : List Data} (h : p.runRaw rules = .ok done) :
    d ∈ done.aggregate.damageDice ↔ ∃ raw ∈ rules, ∃ label predicate rule,
      ParsedElement.ofData raw = .known ⟨label, predicate, .damageDice rule⟩ ∧
        p.damageDice predicate rule = .damageDice d := by
  have hentry : d ∈ done.aggregate.damageDice ↔
      Entry.damageDice d ∈ done.aggregate.bucket .damageDice :=
    (List.mem_map_of_injective fun _ _ => Entry.damageDice.inj).symm
  rw [hentry, mem_bucket_of_run h (by decide)]
  constructor
  · rintro ⟨-, ⟨label, predicate, effect⟩, he, hd⟩
    obtain ⟨raw, hraw, he⟩ := List.mem_map.mp he
    have hkind := RuleElement.kind_of_process hd
    cases effect <;> try cases hkind
    exact ⟨raw, hraw, label, predicate, _, he, Attempt.made.inj hd⟩
  · rintro ⟨raw, hraw, label, predicate, rule, he, hd⟩
    exact ⟨rfl, _, List.mem_map.mpr ⟨raw, hraw, he⟩, congrArg Attempt.made hd⟩

/-- **The dice of a pass over payloads have a proper die.** -/
theorem isDie_of_runRaw {rules : List Data} (h : p.runRaw rules = .ok done)
    (hd : d ∈ done.aggregate.damageDice) : isDie d.dieSize = true := by
  obtain ⟨raw, -, label, predicate, rule, he, hmade⟩ := (mem_damageDice_of_runRaw h).mp hd
  exact isDie_of_damageDice (ParsedElement.faults_of_ofData he) hmade

/-- **Rules with dice among them whose replacements have a negative number.** -/
def LowersDice (rules : List Data) : Prop :=
  ∃ raw ∈ rules, ∃ label predicate rule,
    ParsedElement.ofData raw = .known ⟨label, predicate, .damageDice rule⟩ ∧ rule.LowersNumber

/-- **Numbers of dice are not negative** exactly if none of their replacements are. -/
theorem diceNumbers_nonneg_iff {rules : List Data} (h : p.runRaw rules = .ok done) :
    (∀ d ∈ done.aggregate.damageDice, 0 ≤ d.diceNumber) ↔ ¬ LowersDice rules := by
  constructor
  · rintro hall ⟨raw, hraw, label, predicate, rule, he, hlowers⟩
    obtain ⟨d, hmade⟩ : ∃ d, p.damageDice predicate rule = .damageDice d := ⟨_, rfl⟩
    have hd := (mem_damageDice_of_runRaw h).mpr ⟨raw, hraw, label, predicate, rule, he, hmade⟩
    have hneg := (diceNumber_neg_iff (ParsedElement.faults_of_ofData he) hmade).mpr hlowers
    exact absurd (hall d hd) (not_le.mpr hneg)
  · intro hnone d hd
    obtain ⟨raw, hraw, label, predicate, rule, he, hmade⟩ := (mem_damageDice_of_runRaw h).mp hd
    refine not_lt.mp fun hneg => hnone ⟨raw, hraw, label, predicate, rule, he, ?_⟩
    exact (diceNumber_neg_iff (ParsedElement.faults_of_ofData he) hmade).mp hneg

end Processing

/-! ## Pools -/

namespace DamageDice

/-- Dice without a negative number keep pools without one. -/
theorem gather_nonneg {pools : List (String × DicePool)}
    (hpools : ∀ pool ∈ pools, 0 ≤ pool.2.diceNumber) (hd : 0 ≤ d.diceNumber) :
    ∀ pool ∈ gather pools d, 0 ≤ pool.2.diceNumber := by
  refine Fields.forall_set hpools ?_
  cases hpool : Fields.get? pools d.poolKey with
  | none => simpa using hd
  | some pool => exact Int.add_nonneg (hpools _ (Fields.mem_of_get? hpool)) hd

/-- **Pools of dice without a negative number** have none. -/
theorem pools_nonneg {dice : List DamageDice} (h : ∀ d ∈ dice, 0 ≤ d.diceNumber)
    (selector : Option String) (ctx : Option Context) :
    ∀ pool ∈ pools dice selector ctx, 0 ≤ pool.2.diceNumber := by
  unfold pools
  refine List.foldlRecOn _ gather
    (motive := fun pools : List (String × DicePool) => ∀ pool ∈ pools, 0 ≤ pool.2.diceNumber)
    (fun _ hmem => absurd hmem List.not_mem_nil) fun pools hpools d hd => ?_
  exact gather_nonneg hpools (h d (List.mem_of_mem_filter hd))

/-- Dice alone make a pool of their number. -/
theorem pools_singleton (h : d.enabled = true) :
    pools [d] none none = [(d.poolKey, ⟨d.diceNumber, d.dieSize, d.damageType, [d.source]⟩)] := by
  have hcounts : counts none none d = true := by simp [counts, h, Gated.appliesIn]
  simp [pools, hcounts, gather, Fields.get?, Fields.set]

end DamageDice

namespace Processing

/-- **The dice of a pass over any rules.** Every die is a `d` with digits after it. Numbers of dice
are not negative, and neither are those of pools of any of the dice, for any selector and in any
context, exactly if no replacements have a negative number. -/
theorem run_dice_iff {rules : List Data} {done : Pass} (h : p.runRaw rules = .ok done) :
    (∀ d ∈ done.aggregate.damageDice, ∃ digits, d.dieSize.toList = 'd' :: digits ∧ digits ≠ [] ∧
      ∀ c ∈ digits, Text.isDigit c = true) ∧
    ((∀ d ∈ done.aggregate.damageDice, 0 ≤ d.diceNumber) ↔ ¬ LowersDice rules) ∧
    ((∀ dice ⊆ done.aggregate.damageDice, ∀ selector ctx,
      ∀ pool ∈ DamageDice.pools dice selector ctx, 0 ≤ pool.2.diceNumber) ↔
        ¬ LowersDice rules) := by
  refine ⟨fun d hd => ?_, diceNumbers_nonneg_iff h, ?_⟩
  · obtain ⟨raw, -, label, predicate, rule, he, hmade⟩ := (mem_damageDice_of_runRaw h).mp hd
    exact isDie_iff.mp (isDie_of_damageDice (ParsedElement.faults_of_ofData he) hmade)
  · rw [← diceNumbers_nonneg_iff h]
    constructor
    · intro hall d hd
      obtain ⟨raw, -, label, predicate, rule, -, hmade⟩ := (mem_damageDice_of_runRaw h).mp hd
      have henabled : d.enabled = true := by
        cases hmade
        rfl
      -- The dice alone are a pool that has their number.
      have hpool := hall [d] (by simpa using hd) none none
      rw [DamageDice.pools_singleton henabled] at hpool
      exact hpool _ List.mem_cons_self
    · intro hall dice hsub selector ctx
      exact DamageDice.pools_nonneg (fun d hd => hall d (hsub hd)) selector ctx

/-- Replacements with a number below zero are read, and their dice take away from pools. -/
theorem run_dice_negative :
    ∃ done, Processing.runRaw { source := "Test" }
        [.object [("key", .text "DamageDice"), ("selector", .text "strike-damage"),
          ("override", .object [("diceNumber", .int (-2))])]] = .ok done ∧
      done.aggregate.damageDice.map (·.diceNumber) = [-2] ∧
      (DamageDice.pools done.aggregate.damageDice none none).map (·.2.diceNumber) = [-2] :=
  ⟨_, rfl, rfl, rfl⟩

/-- A rule with replacements for its dice, and one that leaves everything out. -/
theorem run_dice_iff_of_flaming :
    let p : Processing := { source := "Flaming" }
    let rules : List Data :=
      [.object [("key", .text "DamageDice"), ("selector", .text "strike-damage"),
          ("diceNumber", .int 1), ("damageType", .text "fire"),
          ("override", .object [("diceNumber", .int 3), ("dieSize", .text "d8")])],
        .object [("key", .text "DamageDice"), ("selector", .text "strike-damage")]]
    ∃ done, p.runRaw rules = .ok done ∧
      done.aggregate.damageDice.map (fun d => (d.diceNumber, d.dieSize)) = [(3, "d8"), (1, "d6")] ∧
      ¬ LowersDice rules ∧
      ∀ dice ⊆ done.aggregate.damageDice, ∀ selector ctx,
        ∀ pool ∈ DamageDice.pools dice selector ctx, 0 ≤ pool.2.diceNumber := by
  intro p rules
  refine ⟨_, rfl, rfl, ?_⟩
  obtain ⟨-, hnumbers, hpools⟩ := run_dice_iff (show p.runRaw rules = .ok _ from rfl)
  have hnone : ¬ LowersDice rules := hnumbers.mp (by decide +kernel)
  exact ⟨hnone, hpools.mpr hnone⟩

end Processing

end RuleElements
