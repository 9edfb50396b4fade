import RuleElements.Proofs.Character.Order
import RuleElements.Proofs.Character.Speed
import RuleElements.Proofs.Character.Trait
import RuleElements.Proofs.Sheet.Build

/-!
# Sources in any order

Sources in another order give the same entries in another order. Wherever the numbers of a sheet
come from, the order drops out if the values are integers: options and traits are sets, the highest
speed, hit points and defenses are maxima, recovery is a sum, and stacking is a sum and maxima. The
one place where more is needed is the traits, for a trait that is both added and taken away.

Main definitions:
* `Sheet.totals`: what the statistics of a sheet come to.
* `Sheet.SameNumbers`: sheets that agree on traits, options and all numbers.

Results:
* `CharacterState.finalContext_alike`, `CharacterState.activeEntries_reordered`: what applies.
* `Sheet.ofAggregate_integral`: the sheet of an integral aggregate.
* `Sheet.build_perm`: the order of sources does not change the numbers.
-/

namespace RuleElements

namespace CharacterState

variable (state : CharacterState) {a b : Aggregate}

/-! ## What applies -/

/-- The same further options in another order give contexts that are alike. -/
theorem context_alike {traits further further' : List String}
    (h : ∀ o, o ∈ further ↔ o ∈ further') :
    (state.context traits further).Alike (state.context traits further') where
  options o := by
    show o ∈ state.options further ↔ o ∈ state.options further'
    rw [mem_options, mem_options, h]
  level := rfl
  traits := rfl
  effects := rfl

/-- Aggregates with the same entries collect the same options. -/
theorem collectedContext_alike (h : a.Reordered b) (traits : List String) :
    (state.collectedContext a traits).Alike (state.collectedContext b traits) :=
  state.context_alike fun _ => h.mem_activeOptions_iff (state.context_alike fun _ => .rfl)

/-- **The final traits** do not depend on the order of changes that do not undo each other. -/
theorem finalTraits_eq_of_reordered (h : a.Reordered b) (hapart : Trait.Apart a.traitChanges) :
    state.finalTraits a = state.finalTraits b :=
  Trait.final_perm hapart h.traitChanges (state.collectedContext_alike h state.traits)

theorem finalContext_alike (h : a.Reordered b) (hapart : Trait.Apart a.traitChanges) :
    (state.finalContext a).Alike (state.finalContext b) := by
  unfold finalContext
  rw [state.finalTraits_eq_of_reordered h hapart]
  exact state.collectedContext_alike h _

/-- **What applies** are the same entries in contexts that are alike. -/
theorem activeEntries_reordered {c d : Context} (h : a.Reordered b) (halike : c.Alike d) :
    (state.activeEntries a c).Reordered (state.activeEntries b d) := by
  have hkept := h.filter halike
  have hshape : ∀ (a : Aggregate) (c : Context), state.activeEntries a c =
      (a.filter c).withModifiers
        ((a.filter c).modifiers ++ conditionModifiers state.conditions) := fun _ _ => rfl
  intro k
  rw [hshape, hshape]
  by_cases hk : k = .flatModifier
  · obtain rfl := hk
    exact (hkept.modifiers.append_right _).map _
  · rw [Aggregate.bucket_withModifiers _ _ hk, Aggregate.bucket_withModifiers _ _ hk]
    exact hkept k

/-- The penalties of conditions are integral, and not gated. -/
theorem of_mem_conditionModifiers {conditions : List (String × Int)} {m : Modifier}
    (h : m ∈ conditionModifiers conditions) : m.IsIntegral ∧ m.predicate = none := by
  obtain ⟨⟨name, value⟩, -, hmodifier⟩ := List.mem_filterMap.mp h
  simp only [conditionModifier?] at hmodifier
  split at hmodifier
  · cases hmodifier
  · obtain ⟨selector, -, rfl⟩ := Option.map_eq_some_iff.mp hmodifier
    exact ⟨⟨-value, rfl⟩, rfl⟩

/-- What applies of an integral aggregate is integral, the penalties of conditions included. -/
theorem activeEntries_integral (h : a.Integral) (ctx : Context) :
    (state.activeEntries a ctx).Integral :=
  { h.filter ctx with
    modifiers := fun m hm => (List.mem_append.mp hm).elim ((h.filter ctx).modifiers m)
      fun hcondition => (of_mem_conditionModifiers hcondition).1 }

end CharacterState

namespace Sheet

variable {state : CharacterState} {a b : Aggregate} {c d : Context}

/-! ## The sheet of an integral aggregate -/

/-- What the statistics of a sheet come to. -/
def totals (sheet : Sheet) : Except ArithmeticFault (List (String × Number)) :=
  sheet.statistics.mapM fun (selector, statistic) => statistic.total.map fun total =>
    (selector, total)

/-- What the modifiers aimed at a speed come to. -/
def speedBonus (active : Aggregate) (ctx : Context) (type : String) : Int :=
  Stacking.reference
    (active.modifiersFor (some ctx) (speedSelectors type).1 (speedSelectors type).2)

theorem modifiedSpeed_integral (h : a.Integral) (ctx : Context) {speed : String × Number}
    (hspeed : speed.2.IsIntegral) : modifiedSpeed a ctx speed =
      .ok (speed.1, .integer (speed.2.toInt + speedBonus a ctx speed.1)) := by
  obtain ⟨type, value⟩ := speed
  obtain ⟨n, rfl⟩ := hspeed
  have hvalue := Stacking.valueOn_integral n
    (h.modifiersFor (some ctx) (speedSelectors type).1 (speedSelectors type).2)
  exact Faulting.map_eq_ok.mpr ⟨_, hvalue, rfl⟩

/-- **The sheet of an integral aggregate** can be built. -/
theorem ofAggregate_integral (state : CharacterState) (h : a.Integral) :
    ∃ healing, FastHealing.total
        (state.activeEntries a (state.finalContext a)).fastHealing [] none = .ok healing ∧
      ofAggregate state a = .ok (ofActive state (state.finalTraits a) (state.finalContext a)
        (state.activeEntries a (state.finalContext a))
        ((raisedSpeeds state.baseSpeeds
          (state.activeEntries a (state.finalContext a)).speeds).map fun speed =>
            (speed.1, .integer (speed.2.toInt +
              speedBonus (state.activeEntries a (state.finalContext a)) (state.finalContext a)
                speed.1)))
        healing a.logs) := by
  have hactive := state.activeEntries_integral h (state.finalContext a)
  obtain ⟨n, hhealing⟩ := FastHealing.total_integral [] none hactive.fastHealing
  refine ⟨_, hhealing, ofAggregate_eq_ok.mpr ⟨_, _, ?_, hhealing, rfl⟩⟩
  exact Faulting.mapM_eq_ok_map fun speed hspeed =>
    modifiedSpeed_integral hactive _ (isIntegral_raisedSpeeds _ hactive.speeds speed hspeed)

/-- The statistics of an integral aggregate can be summed up. -/
theorem totals_integral (traits : List String) (h : a.Integral) (ctx : Context)
    (speeds : List (String × Number)) (healing : Number) (logs : List String) :
    (ofActive state traits ctx a speeds healing logs).totals =
      .ok (a.selectors.map fun selector =>
        (selector, .integer (Stacking.reference (a.modifiersFor (some ctx) selector [])))) := by
  have htotal : ∀ selector, (a.statistic (some ctx) selector (.integer 0) []).total =
      .ok (.integer (Stacking.reference (a.modifiersFor (some ctx) selector []))) := by
    intro selector
    have := Stacking.valueOn_integral 0 (h.modifiersFor (some ctx) selector [])
    rwa [zero_add] at this
  show (a.selectors.map _).mapM _ = _
  rw [List.mapM_map]
  refine Faulting.mapM_eq_ok_map fun selector _ => ?_
  exact Faulting.map_eq_ok.mpr ⟨_, htotal selector, rfl⟩

/-! ## Sheets with the same numbers -/

/-- **Sheets with the same numbers**: the same traits, options, speeds, defenses, hit points and
recovery, and the same totals of their statistics. -/
structure SameNumbers (sheet sheet' : Sheet) : Prop where
  traits : sheet.traits = sheet'.traits
  rollOptions : sheet.rollOptions = sheet'.rollOptions
  speeds : ∀ type, Fields.get? sheet.speeds type = Fields.get? sheet'.speeds type
  resistances : sheet.resistances = sheet'.resistances
  weaknesses : sheet.weaknesses = sheet'.weaknesses
  tempHP : sheet.tempHP.map (·.value) = sheet'.tempHP.map (·.value)
  fastHealing : sheet.fastHealing = sheet'.fastHealing
  totals : ∃ totals, sheet.totals = .ok totals ∧ sheet'.totals = .ok totals

/-- The modifiers aimed at a speed come to the same. -/
theorem speedBonus_eq (h : a.Reordered b) (halike : c.Alike d) (type : String) :
    speedBonus a c type = speedBonus b d type :=
  Aggregate.reference_modifiersFor h halike _ _

/-- **What applies in another order** gives the same numbers. -/
theorem sameNumbers_ofActive {traits : List String} (healing : Number) (logs logs' : List String)
    (h : a.Reordered b) (halike : c.Alike d) (ha : a.Integral) (hb : b.Integral) :
    SameNumbers
      (ofActive state traits c a ((raisedSpeeds state.baseSpeeds a.speeds).map fun speed =>
        (speed.1, .integer (speed.2.toInt + speedBonus a c speed.1))) healing logs)
      (ofActive state traits d b ((raisedSpeeds state.baseSpeeds b.speeds).map fun speed =>
        (speed.1, .integer (speed.2.toInt + speedBonus b d speed.1))) healing logs') where
  traits := rfl
  rollOptions := sortedTexts_congr halike.options
  speeds type := by
    have hmodified : ∀ (a : Aggregate) (c : Context) (speeds : List (String × Number)),
        Fields.get? (speeds.map fun speed =>
          (speed.1, Number.integer (speed.2.toInt + speedBonus a c speed.1))) type =
        (Fields.get? speeds type).map fun value =>
          .integer (value.toInt + speedBonus a c type) := fun a c speeds =>
      Fields.get?_map (fun type value => Number.integer (value.toInt + speedBonus a c type))
        speeds type
    show Fields.get? (List.map _ _) type = Fields.get? (List.map _ _) type
    rw [hmodified, hmodified, get?_raisedSpeeds_perm _ ha.speeds h.speeds, speedBonus_eq h halike]
  resistances := by
    have htypes : sortedTexts (a.resistances.flatMap (·.types)) =
        sortedTexts (b.resistances.flatMap (·.types)) :=
      sortedTexts_congr fun _ => (h.resistances.flatMap_right _).mem_iff
    show List.map _ _ = List.map _ _
    rw [htypes]
    refine List.map_congr_left fun type _ => ?_
    rw [Resistance.against_perm type none none ha.resistances h.resistances]
  weaknesses := by
    have htypes : sortedTexts (a.weaknesses.flatMap (·.types)) =
        sortedTexts (b.weaknesses.flatMap (·.types)) :=
      sortedTexts_congr fun _ => (h.weaknesses.flatMap_right _).mem_iff
    show List.map _ _ = List.map _ _
    rw [htypes]
    refine List.map_congr_left fun type _ => ?_
    rw [Weakness.against_perm type none ha.weaknesses h.weaknesses]
  tempHP := TempHP.active_perm ha.tempHP h.tempHP
  fastHealing := rfl
  totals := by
    refine ⟨_, totals_integral traits ha c _ healing logs, ?_⟩
    rw [totals_integral traits hb d, Aggregate.selectors_eq h]
    simp only [Aggregate.reference_modifiersFor h halike]

/-- Aggregates with the same entries give sheets with the same numbers. -/
theorem sameNumbers_ofAggregate (state : CharacterState) (h : a.Reordered b) (ha : a.Integral)
    (hb : b.Integral) (hapart : Trait.Apart a.traitChanges) :
    ∃ sheet sheet', ofAggregate state a = .ok sheet ∧ ofAggregate state b = .ok sheet' ∧
      sheet.SameNumbers sheet' := by
  have halike := state.finalContext_alike h hapart
  have hactive := state.activeEntries_reordered h halike
  have hintegral := state.activeEntries_integral ha (state.finalContext a)
  obtain ⟨healing, hhealing, hsheet⟩ := ofAggregate_integral state ha
  obtain ⟨healing', hhealing', hsheet'⟩ := ofAggregate_integral state hb
  -- the sums of recovery agree, and so the two results do
  rw [FastHealing.total_perm [] none hintegral.fastHealing hactive.fastHealing, hhealing']
    at hhealing
  obtain rfl : healing' = healing := Except.ok.inj hhealing
  refine ⟨_, _, hsheet, hsheet', ?_⟩
  rw [state.finalTraits_eq_of_reordered h hapart]
  exact sameNumbers_ofActive healing' a.logs b.logs hactive halike hintegral
    (state.activeEntries_integral hb _)

/-! ## Sources -/

/-- **The order of sources does not change the numbers.** Let all values that the sources give be
integers, and no trait be both added and taken away. Then with the sources in any other order the
sheet can be built as well, and both have the same traits, options, speeds, defenses, hit points,
recovery and totals. -/
theorem build_perm {sources sources' : List RuleSource} {merged : Aggregate}
    (hperm : sources.Perm sources') (hmerged : state.gathered sources = .ok merged)
    (hintegral : merged.Integral) (hapart : Trait.Apart merged.traitChanges) :
    ∃ sheet log sheet' log', build state sources = .ok (sheet, log) ∧
      build state sources' = .ok (sheet', log') ∧ sheet.SameNumbers sheet' := by
  obtain ⟨passes, hpasses, rfl⟩ := Faulting.map_eq_ok.mp hmerged
  obtain ⟨passes', hpasses', hpassesPerm⟩ := Faulting.mapM_perm hperm hpasses
  have hreordered := Aggregate.merge_reordered (hpassesPerm.map (·.aggregate))
  have hmerged' : state.gathered sources' = .ok (Aggregate.merge (passes'.map (·.aggregate))) :=
    Faulting.map_eq_ok.mpr ⟨passes', hpasses', rfl⟩
  obtain ⟨sheet, sheet', hsheet, hsheet', hsame⟩ :=
    sameNumbers_ofAggregate state hreordered hintegral (hintegral.reordered hreordered) hapart
  obtain ⟨log, hbuild⟩ := build_eq_ok.mpr ⟨_, hmerged, hsheet⟩
  obtain ⟨log', hbuild'⟩ := build_eq_ok.mpr ⟨_, hmerged', hsheet'⟩
  exact ⟨sheet, log, sheet', log', hbuild, hbuild', hsame⟩

/-- Boots that raise the speed on land, and a cloak that adds a trait and takes another away. -/
theorem build_perm_of_gear :
    let state : CharacterState :=
      { level := 3, traits := ["Human", "Cursed"], baseSpeeds := [("land", 25)] }
    let boots : RuleSource :=
      { id := "boots"
        name := "Boots"
        rules := [[("key", .text "BaseSpeed"), ("selector", .text "land"), ("value", .int 30)],
          [("key", .text "FlatModifier"), ("selector", .text "land-speed"), ("value", .int 5)]] }
    let cloak : RuleSource :=
      { id := "cloak"
        name := "Cloak"
        rules := [[("key", .text "ActorTraits"), ("add", .list [.text "Hidden"]),
            ("remove", .list [.text "Cursed"])],
          [("key", .text "TempHP"), ("value", .text "@actor.level")]] }
    ∃ sheet log sheet' log', build state [boots, cloak] = .ok (sheet, log) ∧
      build state [cloak, boots] = .ok (sheet', log') ∧ sheet.SameNumbers sheet' := by
  intro state boots cloak
  obtain ⟨merged, hmerged, hintegral, hapart⟩ : ∃ merged,
      state.gathered [boots, cloak] = .ok merged ∧ merged.Integral ∧
        Trait.Apart merged.traitChanges := ⟨_, rfl, by decide +kernel, by decide +kernel⟩
  exact build_perm (List.Perm.swap cloak boots []) hmerged hintegral hapart

end Sheet

end RuleElements
