import RuleElements.Proofs.Aggregate.Merge
import RuleElements.Proofs.Predicate.Unchecked

/-!
# The predicates of a written aggregate

Every entry of a written aggregate holds its predicate. A compound in it is written under other
names than are evaluated, so it counts as an object that says nothing, which holds: of a written
predicate only its bare options still gate. No entry that applies is lost to someone who evaluates
the written predicates, but an entry that only a compound shuts out comes back.

Main definitions:
* `Predicate.bareOptions`: the options among the statements of a predicate.
* `Entry.toData`, `Data.gating`: an entry as it is written, and what its predicate then evaluates
  to.

Results:
* `Statement.evaluate_toData`: what a written statement evaluates to.
* `Aggregate.buckets_eq`: the lists of a written aggregate, by the kinds of rule elements.
* `Predicate.evaluate_written`: when a written predicate has the truth of the predicate.
-/

namespace RuleElements

variable {ctx : Context}

/-! ## Written predicates -/

/-- The option that a statement is, if it is no compound. -/
def Statement.option? : Statement → Option String
  | .option name => some name
  | .compound .. => none

/-- **The options among the statements of a predicate**; a missing one has none. -/
def Predicate.bareOptions (p : Option Predicate) : List String :=
  (p.getD []).filterMap Statement.option?

/-- **A written option has its truth, and a written compound holds.** -/
theorem Statement.evaluate_toData (s : Statement) :
    Data.evaluateStatement ctx s.toData = .ofBool (s.option?.all ctx.holds) := by
  cases s with
  | option name => rfl
  | compound all any negated =>
    -- none of the names that are written is one that is evaluated
    simp [Statement.toData, Data.evaluateStatement, Data.negatedAt, Data.listedAt,
      Statement.option?]

theorem Statement.evaluate_itemsToData (p : List Statement) :
    Data.evaluateItems ctx false (Statement.itemsToData p) =
      .ofBool ((Predicate.bareOptions (some p)).all ctx.holds) := by
  induction p with
  | nil => rfl
  | cons s rest ih =>
    rw [Statement.itemsToData, Data.evaluateItems, Statement.evaluate_toData, ih,
      Verdict.settledBy_ofBool]
    cases s with
    | option name => cases hname : ctx.holds name <;>
        simp [Predicate.bareOptions, Statement.option?, hname]
    | compound => simp [Predicate.bareOptions, Statement.option?]

theorem Predicate.evaluate_predicateField (p : Option Predicate) :
    Data.evaluatePredicate ctx (predicateField p).2 =
      .ofBool ((Predicate.bareOptions p).all ctx.holds) := by
  match p with
  | none => rfl
  | some [] => rfl
  | some (s :: rest) =>
    show Data.evaluateNamed ctx (Data.named (Predicate.toData (s :: rest))) = _
    rw [Predicate.toData, Data.named, Statement.namedItems_itemsToData]
    exact Statement.evaluate_itemsToData (s :: rest)

/-- What holds has bare options that hold. -/
theorem Predicate.bareOptions_hold {p : Option Predicate} (h : Predicate.holdsIn ctx p = true) :
    (Predicate.bareOptions p).all ctx.holds = true := by
  cases p with
  | none => rfl
  | some p =>
    rw [List.all_eq_true]
    intro name hname
    obtain ⟨s, hs, hoption⟩ := List.mem_filterMap.mp hname
    cases s with
    | option o =>
      cases hoption
      exact Predicate.holds_iff.mp h _ hs
    | compound => cases hoption

/-! ## Written entries -/

/-- An entry as raw data. -/
def Entry.toData : Entry → Data
  | .modifier e => e.toData
  | .damageDice e => e.toData
  | .speed e => e.toData
  | .sense e => e.toData
  | .grantedItem e => e.toData
  | .choicePrompt e => e.toData
  | .propertyChange e => e.toData
  | .rollOption e => e.toData
  | .toggleProperty e => e.toData
  | .weaponPotency e => e.toData
  | .striking e => e.toData
  | .tempHP e => e.toData
  | .fastHealing e => e.toData
  | .resistance e => e.toData
  | .weakness e => e.toData
  | .immunity e => e.toData
  | .sizeChange e => e.toData
  | .traitChange e => e.toData

/-- The lists of a written aggregate: the kind of the rule elements that give their entries, and the
name. -/
def Aggregate.bucketNames : List (Kind × String) :=
  [(.flatModifier, "modifiers"), (.damageDice, "damage_dice"), (.baseSpeed, "speeds"),
    (.sense, "senses"), (.grantItem, "granted_items"), (.choiceSet, "choice_sets"),
    (.activeEffectLike, "property_modifications"), (.rollOption, "roll_options"),
    (.toggleProperty, "toggle_properties"), (.weaponPotency, "weapon_potencies"),
    (.striking, "striking_bonuses"), (.tempHP, "temp_hp"), (.fastHealing, "fast_healing"),
    (.resistance, "resistances"), (.weakness, "weaknesses"), (.immunity, "immunities"),
    (.creatureSize, "size_modifiers"), (.actorTraits, "trait_modifications")]

/-- **An aggregate is written bucket by bucket**, and a bucket entry by entry. -/
theorem Aggregate.buckets_eq (a : Aggregate) :
    a.buckets = bucketNames.map fun (k, name) => (name, (a.bucket k).map Entry.toData) := by
  simp only [buckets, bucketNames, bucket, List.map_cons, List.map_nil, List.map_map]
  rfl

/-- What the predicate of written data evaluates to; without one, the data applies. -/
def Data.gating (ctx : Context) : Data → Verdict
  | .object fields => Data.evaluatePredicate ctx ((Fields.get? fields "predicate").getD .null)
  | _ => .ofBool true

theorem Entry.gating_toData (e : Entry) :
    e.toData.gating ctx = Data.evaluatePredicate ctx (predicateField e.predicate).2 := by
  cases e <;> rfl

/-- A written predicate keeps out what its bare options keep out. -/
theorem Predicate.evaluate_predicateField_eq_false_iff {p : Option Predicate} :
    Data.evaluatePredicate ctx (predicateField p).2 = .ok (false, []) ↔
      ∃ name ∈ Predicate.bareOptions p, ctx.holds name = false := by
  rw [Predicate.evaluate_predicateField]
  simp [Verdict.ofBool, List.all_eq_false]

/-- A written predicate holds wherever the predicate does. -/
theorem Predicate.evaluate_predicateField_of_holds {p : Option Predicate}
    (h : Predicate.holdsIn ctx p = true) :
    Data.evaluatePredicate ctx (predicateField p).2 = .ok (true, []) := by
  rw [Predicate.evaluate_predicateField, Predicate.bareOptions_hold h]
  rfl

/-- **A written predicate** is evaluated as its bare options: it has the truth of the predicate if
this holds or a bare option fails, and otherwise it holds although the predicate does not. The
entries of a written aggregate all have such a predicate. So one that applies is found, and one that
does not apply is shut out if and only if one of its bare options fails. -/
theorem Predicate.evaluate_written (ctx : Context) :
    (∀ p : Option Predicate,
      Data.evaluatePredicate ctx (predicateField p).2 =
          .ok ((Predicate.bareOptions p).all ctx.holds, []) ∧
        (Data.evaluatePredicate ctx (predicateField p).2 = .ok (Predicate.holdsIn ctx p, []) ↔
          Predicate.holdsIn ctx p = true ∨
            ∃ name ∈ Predicate.bareOptions p, ctx.holds name = false)) ∧
    (∀ a : Aggregate, a.buckets = Aggregate.bucketNames.map fun (k, name) =>
      (name, (a.bucket k).map Entry.toData)) ∧
    ∀ e : Entry,
      (Gated.applies ctx e = true → e.toData.gating ctx = .ok (true, [])) ∧
      (Gated.applies ctx e = false → (e.toData.gating ctx = .ok (false, []) ↔
        ∃ name ∈ Predicate.bareOptions e.predicate, ctx.holds name = false)) := by
  refine ⟨fun p => ⟨Predicate.evaluate_predicateField p, ?_⟩, Aggregate.buckets_eq, fun e => ?_⟩
  · cases hholds : Predicate.holdsIn ctx p with
    | true => exact iff_of_true (Predicate.evaluate_predicateField_of_holds hholds) (.inl rfl)
    | false =>
      rw [Predicate.evaluate_predicateField_eq_false_iff]
      exact (or_iff_right Bool.false_ne_true).symm
  · rw [Entry.gating_toData]
    exact ⟨Predicate.evaluate_predicateField_of_holds,
      fun _ => Predicate.evaluate_predicateField_eq_false_iff⟩

/-- An option that must hold gates while it stands alone, and no longer once it is the only part of
a compound. -/
theorem Predicate.evaluate_written_compound :
    let bare : Predicate := [.option "x"]
    let compound : Predicate := [.compound (some bare) none none]
    (Predicate.holdsIn {} (some bare) = false ∧
      Data.evaluatePredicate {} (predicateField (some bare)).2 = .ok (false, [])) ∧
    Predicate.holdsIn {} (some compound) = false ∧
      Data.evaluatePredicate {} (predicateField (some compound)).2 = .ok (true, []) := by
  refine ⟨⟨?_, ?_⟩, ?_, ?_⟩ <;> rfl

/-- A sense that a bare option shuts out stays out, whatever the compound beside it says. -/
theorem Predicate.evaluate_written_of_sense :
    let e : Entry := .sense
      { type := "darkvision", acuity := .precise, source := "Elf", label := "Darkvision",
        predicate := some [.option "dark", .compound none none (some (.option "blind"))] }
    Gated.applies {} e = false ∧ e.toData.gating {} = .ok (false, []) := by
  intro e
  have happlies : Gated.applies {} e = false := by decide +kernel
  exact ⟨happlies, (((Predicate.evaluate_written {}).2.2 e).2 happlies).mpr
    ⟨"dark", by decide, by decide +kernel⟩⟩

end RuleElements
