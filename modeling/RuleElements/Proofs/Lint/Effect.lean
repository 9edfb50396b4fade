import RuleElements.Lint
import RuleElements.Processing.Element
import RuleElements.Proofs.Choice.Placeholder
import RuleElements.Proofs.Numeric.Operand

/-!
# Which rule elements can give an entry

Whether a rule element gives an entry depends on the level, the player's choices and the operand.
Level and choices can always be had: at level zero every formula has a value, a gate on the level is
passed at the level it asks for, and a store can fill every placeholder. What is left is a condition
on the fields of each kind.

Main definitions:
* `Operand.Fillable`: a value comes out of an operand once its placeholders are filled.
* `Operand.isNonfinite`: an operand that is an infinity or a NaN at every level.
* `Effect.CanWork`: the condition on the fields of each kind.

Results:
* `RuleElement.exists_process_iff`: a rule element gives an entry in some circumstances exactly if
  its effect can work.
-/

namespace RuleElements

/-- **A value comes out of an operand** once its placeholders are filled by some store. -/
def Operand.Fillable (value : Operand) : Prop :=
  ∃ store filled, Processing.fillOperand (some store) value = some filled ∧
    filled.isReadable = true

/-- Whether an operand is an infinity or a NaN at every level. -/
def Operand.isNonfinite (value : Operand) : Bool := value.constant?.any (!·.isFinite)

/-- **When an effect can work**, by its kind. -/
def Effect.CanWork : Effect → Prop
  | .flatModifier rule => rule.value.isReadable = true
  | .adjustModifier _ => False
  | .damageDice _ => True
  | .baseSpeed rule => rule.value.isReadable = true
  | .sense _ => True
  | .grantItem rule => (nonEmpty? rule.uuid).isSome = true ∨ rule.item.getD [] ≠ []
  | .choiceSet rule => rule.choices ≠ []
  | .activeEffectLike rule => rule.value.Fillable
  | .rollOption _ => True
  | .toggleProperty _ => True
  | .weaponPotency rule => rule.value.isReadable = true ∧ rule.value.isNonfinite = false
  | .striking rule => rule.value.isReadable = true ∧ rule.value.isNonfinite = false
  | .tempHP rule => rule.value.isReadable = true
  | .fastHealing rule => rule.value.isReadable = true
  | .resistance rule => rule.value.isReadable = true
  | .weakness rule => rule.value.isReadable = true
  | .immunity _ => True
  | .creatureSize _ => True
  | .actorTraits _ => True

/-! ## Operands -/

/-- An entry that only needs the value of an operand is given in some circumstances exactly if the
operand can be read. -/
theorem exists_map_resolve_iff {value : Operand} (make : Int → ChoiceStore → Number → Entry) :
    (∃ level store x, (value.resolve level).map (make level store) = .made x) ↔
      value.isReadable = true := by
  rw [← Operand.exists_resolve_iff]
  constructor
  · rintro ⟨level, store, x, h⟩
    obtain ⟨n, hn, -⟩ := Attempt.map_eq_made.mp h
    exact ⟨level, n, hn⟩
  · rintro ⟨level, n, hn⟩
    exact ⟨level, {}, _, Attempt.map_eq_made.mpr ⟨n, hn, rfl⟩⟩

/-- The rank of a rune is an integer, so its operand must not be an infinity or a NaN besides. -/
theorem exists_map_runeRank_iff {value : Operand} (source : String)
    (make : Int → ChoiceStore → Int → Entry) :
    (∃ level store x, (Processing.runeRank { source, level, choices := some store } value).map
        (make level store) = .made x) ↔
      value.isReadable = true ∧ value.isNonfinite = false := by
  constructor
  · rintro ⟨level, store, x, h⟩
    obtain ⟨rank, hrank, -⟩ := Attempt.map_eq_made.mp h
    obtain ⟨n, hn, htruncate⟩ := Attempt.andThen_eq_made.mp hrank
    obtain ⟨m, hm, -⟩ := Attempt.map_eq_made.mp htruncate
    have hfinite := Number.exists_truncate_iff.mp ⟨m, Attempt.ofArithmetic_eq_made.mp hm⟩
    refine ⟨Operand.exists_resolve_iff.mp ⟨level, n, hn⟩, ?_⟩
    unfold Operand.isNonfinite
    cases hconstant : value.constant? with
    | none => rfl
    | some c =>
      have hsame := (Operand.resolve_of_constant hconstant).symm.trans hn
      cases hsame
      rw [Option.any_some, hfinite]
      rfl
  · rintro ⟨hread, hbounded⟩
    obtain ⟨n, hn, hkind⟩ := Operand.resolve_zero hread
    have hfinite : n.isFinite = true := by
      rcases hkind with hconstant | ⟨-, hfinite⟩
      · unfold Operand.isNonfinite at hbounded
        rwa [hconstant, Option.any_some, Bool.not_eq_false'] at hbounded
      · exact hfinite
    obtain ⟨m, hm⟩ := Number.exists_truncate_iff.mpr hfinite
    refine ⟨0, {}, _, Attempt.map_eq_made.mpr ⟨clamp 1 3 m, ?_, rfl⟩⟩
    refine Attempt.andThen_eq_made.mpr ⟨n, hn, Attempt.map_eq_made.mpr ⟨m, ?_, rfl⟩⟩
    exact Attempt.ofArithmetic_eq_made.mpr hm

/-- A store that fills an operand can be completed to fill a path as well. -/
theorem exists_fill_with_path {value filled : Operand} {store : ChoiceStore} (path : String)
    (h : Processing.fillOperand (some store) value = some filled) :
    ∃ store' path', Placeholder.resolve (some store') path = some path' ∧
      Processing.fillOperand (some store') value = some filled := by
  cases value with
  | number n =>
    obtain ⟨path', hpath, -⟩ := Placeholder.resolve_completed store path fun _ hflag => hflag
    exact ⟨_, path', hpath, h⟩
  | text s =>
    obtain ⟨t, ht, rfl⟩ := Option.map_eq_some_iff.mp h
    obtain ⟨path', hpath, -⟩ := Placeholder.resolve_completed store path
      fun _ hflag => List.mem_append_left (Placeholder.flags s) hflag
    obtain ⟨t', ht', hsame⟩ := Placeholder.resolve_completed store s
      fun _ hflag => List.mem_append_right (Placeholder.flags path) hflag
    obtain rfl := hsame t ht
    exact ⟨_, path', hpath, Option.map_eq_some_iff.mpr ⟨t', ht', rfl⟩⟩

/-! ## Kinds -/

/-- **Granted items** need something to grant. -/
theorem exists_grantItem_iff (source : String) (predicate : Option Predicate)
    (rule : GrantItemRule) :
    (∃ level store x, Processing.grantItem { source, level, choices := some store } predicate rule =
        .made x) ↔ (nonEmpty? rule.uuid).isSome = true ∨ rule.item.getD [] ≠ [] := by
  have hempty : ((nonEmpty? rule.uuid).isNone && (rule.item.getD []).isEmpty) = true ↔
      ¬ ((nonEmpty? rule.uuid).isSome = true ∨ rule.item.getD [] ≠ []) := by
    cases nonEmpty? rule.uuid <;> simp
  constructor
  · rintro ⟨level, store, x, h⟩
    by_contra hnothing
    unfold Processing.grantItem at h
    rw [if_pos (hempty.mpr hnothing)] at h
    cases h
  · intro h
    -- at the level that the rule asks for the gate is passed
    have hgate : rule.level.any (rule.level.getD 0 < ·) = false := by cases rule.level <;> simp
    refine ⟨rule.level.getD 0, {}, ?_⟩
    unfold Processing.grantItem
    rw [if_neg fun hnothing => hempty.mp hnothing h]
    simp only [hgate]
    exact ⟨_, rfl⟩

/-- **Choices** need options to choose from. -/
theorem exists_choiceSet_iff (source : String) (predicate : Option Predicate)
    (rule : ChoiceSetRule) :
    (∃ level store x, Processing.choiceSet { source, level, choices := some store } predicate rule =
        .made x) ↔ rule.choices ≠ [] := by
  unfold Processing.choiceSet
  by_cases h : rule.choices = []
  · simp [h]
  · have hsome : rule.choices.isEmpty = false := by rwa [List.isEmpty_eq_false_iff]
    simp only [hsome]
    exact ⟨fun _ => h, fun _ => ⟨0, {}, _, rfl⟩⟩

/-- **Property changes** need a value once their placeholders are filled. -/
theorem exists_activeEffect_iff (source : String) (predicate : Option Predicate)
    (rule : ActiveEffectRule) :
    (∃ level store x,
      Processing.activeEffect { source, level, choices := some store } predicate rule =
        .made x) ↔ rule.value.Fillable := by
  constructor
  · rintro ⟨level, store, x, h⟩
    unfold Processing.activeEffect at h
    simp only at h
    split at h
    · rename_i path filled hpath hfilled
      obtain ⟨n, hn, -⟩ := Attempt.map_eq_made.mp h
      exact ⟨store, filled, hfilled, Operand.exists_resolve_iff.mp ⟨level, n, hn⟩⟩
    · cases h
  · rintro ⟨store, filled, hfilled, hread⟩
    obtain ⟨store', path, hpath, hfilled'⟩ := exists_fill_with_path rule.path hfilled
    obtain ⟨n, hn, -⟩ := Operand.resolve_zero hread
    refine ⟨0, store', ?_⟩
    unfold Processing.activeEffect
    simp only [hpath, hfilled']
    exact ⟨_, Attempt.map_eq_made.mpr ⟨n, hn, rfl⟩⟩

/-- **A rule element gives an entry** at some level with some choices exactly if its effect can
work. -/
theorem RuleElement.exists_process_iff (source : String) (e : RuleElement) :
    (∃ level store x, e.process { source, level, choices := some store } = .made x) ↔
      e.effect.CanWork := by
  obtain ⟨label, predicate, effect⟩ := e
  have always {entry : Int → ChoiceStore → Entry} : (∃ level store x,
      Attempt.made (entry level store) = .made x) ↔ True :=
    ⟨fun _ => trivial, fun _ => ⟨0, {}, _, rfl⟩⟩
  unfold process
  cases effect with
  | flatModifier rule => exact exists_map_resolve_iff _
  | adjustModifier rule =>
    refine ⟨fun ⟨_, _, _, h⟩ => ?_, False.elim⟩
    cases h
  | damageDice rule => exact always
  | baseSpeed rule => exact exists_map_resolve_iff _
  | sense rule => exact always
  | grantItem rule => exact exists_grantItem_iff source predicate rule
  | choiceSet rule => exact exists_choiceSet_iff source predicate rule
  | activeEffectLike rule => exact exists_activeEffect_iff source predicate rule
  | rollOption rule => exact always
  | toggleProperty rule => exact always
  | weaponPotency rule => exact exists_map_runeRank_iff source _
  | striking rule => exact exists_map_runeRank_iff source _
  | tempHP rule => exact exists_map_resolve_iff _
  | fastHealing rule => exact exists_map_resolve_iff _
  | resistance rule => exact exists_map_resolve_iff _
  | weakness rule => exact exists_map_resolve_iff _
  | immunity rule => exact always
  | creatureSize rule => exact always
  | actorTraits rule => exact always

end RuleElements
