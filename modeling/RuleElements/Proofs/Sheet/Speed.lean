import RuleElements.Proofs.Sheet.Order

/-!
# The speeds of a sheet

The speeds of a sheet come about in two rounds over the same map. Those of the character are raised
by the entries that apply, type by type, and then each is changed by the modifiers that are aimed at
it. For a single type this is a closed form: the largest of its own speed and those of the entries,
plus what the modifiers aimed at it come to, each counted once although it may be aimed at the speed
in more than one way. So the types do not bear on each other.

Main definitions:
* `Speed.top`: the highest speed of a type, of the character itself or of entries.
* `Modifier.AimsAtSpeed`: a modifier that is switched on and aimed at the speed of a type.
* `Sheet.SpeedsFrom`: the speeds of a sheet, read off the entries that apply.

Results:
* `Sheet.mem_names_raisedSpeeds`, `Sheet.get?_raisedSpeeds_eq_top`: the first round.
* `CharacterState.modifiersFor_speed`: the modifiers of the second round.
* `Sheet.speedsFrom_ofAggregate`: both rounds together.
* `Sheet.SpeedsFrom.get?_congr`: what a speed depends on.
* `Sheet.build_speeds`: the speeds of the sheet that is built.
-/

namespace RuleElements

/-! ## The highest speeds -/

namespace Speed

/-- **The highest speed of a type**: the largest of its own speed, or zero if it has none, and the
speeds of entries. -/
def top (base : List (String × Int)) (speeds : List Speed) (type : String) : Number :=
  ((speeds.filter (·.type == type)).map (·.value)).foldl Number.larger
    (.integer ((Fields.get? base type).getD 0))

theorem isIntegral_top (base : List (String × Int)) {speeds : List Speed}
    (h : ∀ s ∈ speeds, s.value.IsIntegral) (type : String) : (top base speeds type).IsIntegral := by
  unfold top
  exact Number.isIntegral_foldl_larger (isIntegral_of_filter (·.type == type) h) _

/-- There is a largest speed of a type if there is one at all. -/
theorem isSome_maximum?_iff {speeds : List Speed} {type : String} :
    (Number.maximum? ((speeds.filter (·.type == type)).map (·.value))).isSome = true ↔
      ∃ s ∈ speeds, s.type = type := by
  constructor
  · intro hsome
    obtain ⟨s, hs⟩ : ∃ s, s ∈ speeds.filter (·.type == type) := by
      refine List.exists_mem_of_ne_nil _ fun hnil => ?_
      rw [hnil] at hsome
      cases hsome
    obtain ⟨hmem, htype⟩ := List.mem_filter.mp hs
    exact ⟨s, hmem, eq_of_beq htype⟩
  · rintro ⟨s, hs, htype⟩
    have hmem : s ∈ speeds.filter (·.type == type) :=
      List.mem_filter.mpr ⟨hs, beq_iff_eq.mpr htype⟩
    cases hlist : speeds.filter (·.type == type) with
    | nil =>
      rw [hlist] at hmem
      cases hmem
    | cons first rest => rfl

/-! ### Speeds by type -/

/-- In a context, speeds by type are those of the entries that apply. -/
theorem byType_eq (speeds : List Speed) (ctx : Option Context) :
    byType speeds ctx = byType (speeds.filter (Gated.appliesIn ctx)) none := by
  unfold byType
  rw [Gated.filter_appliesIn_none]

/-- **The types that are listed** are those of the entries that apply. -/
theorem mem_names_byType {speeds : List Speed} {ctx : Option Context} {type : String} :
    type ∈ Fields.names (byType speeds ctx) ↔
      ∃ s ∈ speeds.filter (Gated.appliesIn ctx), s.type = type := by
  rw [Fields.mem_names_iff, byType_eq, get?_byType, isSome_maximum?_iff]

/-- **A type is listed with its highest speed.** -/
theorem get?_byType_eq_highest {speeds : List Speed} {ctx : Option Context} {type : String}
    (h : type ∈ Fields.names (byType speeds ctx)) :
    Fields.get? (byType speeds ctx) type = some (highest speeds ctx (some type)) := by
  have hsome := Fields.mem_names_iff.mp h
  have hfilter : (speeds.filter (Gated.appliesIn ctx)).filter (·.type == type) =
      speeds.filter fun s => Gated.appliesIn ctx s && (some type).all (s.type == ·) := by
    rw [List.filter_filter]
    exact List.filter_congr fun s _ => Bool.and_comm _ _
  rw [byType_eq, get?_byType, hfilter] at hsome ⊢
  obtain ⟨value, hvalue⟩ := Option.isSome_iff_exists.mp hsome
  rw [hvalue]
  show some value = some ((Number.maximum? _).getD (.integer 0))
  rw [hvalue, Option.getD_some]

end Speed

namespace Sheet

/-! ## The first round -/

theorem get?_ownSpeeds (base : List (String × Int)) (type : String) :
    Fields.get? (Fields.mapValues Number.integer base) type =
      (Fields.get? base type).map Number.integer :=
  Fields.get?_map (fun _ => Number.integer) base type

/-- **The types of the first round** are those of the character and of the entries. -/
theorem mem_names_raisedSpeeds {base : List (String × Int)} {speeds : List Speed} {type : String} :
    type ∈ Fields.names (raisedSpeeds base speeds) ↔
      type ∈ Fields.names base ∨ ∃ s ∈ speeds, s.type = type := by
  rw [Fields.mem_names_iff, Fields.mem_names_iff, ← Speed.isSome_maximum?_iff, get?_raisedSpeeds,
    get?_ownSpeeds]
  cases Number.maximum? ((speeds.filter (·.type == type)).map (·.value)) with
  | none => simp
  | some value => simp

/-- Each type occurs once if the character has each once. -/
theorem nodup_names_raisedSpeeds {base : List (String × Int)} (speeds : List Speed)
    (h : (Fields.names base).Nodup) : (Fields.names (raisedSpeeds base speeds)).Nodup := by
  have hown : (Fields.names (Fields.mapValues Number.integer base)).Nodup := by
    have hnames := Fields.names_map (fun _ => Number.integer) base
    exact hnames ▸ h
  exact List.foldlRecOn (motive := fun known => (Fields.names known).Nodup)
    (Speed.byType speeds none) raise hown fun _ hknown _ _ => Fields.nodup_names_set hknown

/-- **The speed of a type after the first round** is its highest one. -/
theorem get?_raisedSpeeds_eq_top {base : List (String × Int)} {speeds : List Speed}
    (h : ∀ s ∈ speeds, s.value.IsIntegral) {type : String}
    (htype : type ∈ Fields.names (raisedSpeeds base speeds)) :
    Fields.get? (raisedSpeeds base speeds) type = some (Speed.top base speeds type) := by
  have hsome := Fields.mem_names_iff.mp htype
  have hvalues := isIntegral_of_filter (·.type == type) h
  rw [get?_raisedSpeeds, get?_ownSpeeds] at hsome ⊢
  unfold Speed.top
  cases hlist : (speeds.filter (·.type == type)).map (·.value) with
  | nil =>
    rw [hlist] at hsome
    cases hown : Fields.get? base type with
    | none =>
      rw [hown] at hsome
      cases hsome
    | some own => rfl
  | cons first rest =>
    rw [hlist, List.forall_mem_cons] at hvalues
    obtain ⟨⟨n, rfl⟩, hrest⟩ := hvalues
    rw [List.foldl_cons, ← Number.larger_foldl_larger hrest]
    cases Fields.get? base type <;> rfl

end Sheet

/-! ## The second round -/

/-- **A modifier that counts for the speed of a type**: it is switched on, and aimed at that speed,
at all speeds, or for the speed on land at speed as such. -/
def Modifier.AimsAtSpeed (type : String) (m : Modifier) : Prop :=
  m.enabled = true ∧
    (m.selector = type ++ "-speed" ∨ m.selector = "all-speeds" ∨
      type = "land" ∧ m.selector = "speed")

instance (type : String) : DecidablePred (Modifier.AimsAtSpeed type) := fun _ =>
  inferInstanceAs (Decidable (_ ∧ _))

/-- The selectors of a speed are those by which a modifier is aimed at it. -/
theorem Sheet.mem_speedSelectors (type selector : String) :
    selector = (speedSelectors type).1 ∨ selector ∈ (speedSelectors type).2 ↔
      selector = type ++ "-speed" ∨ selector = "all-speeds" ∨
        type = "land" ∧ selector = "speed" := by
  unfold speedSelectors
  by_cases hland : type = "land"
  · obtain rfl := hland
    simp only [if_true, List.mem_cons, List.not_mem_nil, or_false, true_and]
    exact or_congr_right or_comm
  · rw [if_neg hland]
    simp only [List.mem_singleton, hland, false_and, or_false]

namespace CharacterState

variable (state : CharacterState)

/-- All modifiers that apply do so in the context that was asked for: the penalties of conditions
apply in any. -/
theorem applies_of_mem_activeEntries {merged : Aggregate} {ctx : Context} {m : Modifier}
    (h : m ∈ (state.activeEntries merged ctx).modifiers) : Gated.applies ctx m = true := by
  rcases List.mem_append.mp h with hkept | hcondition
  · exact (List.mem_filter.mp hkept).2
  · show Predicate.holdsIn ctx m.predicate = true
    rw [(of_mem_conditionModifiers hcondition).2]
    rfl

/-- **The modifiers of the second round**: what applies, is switched on and is aimed at the speed,
each once. -/
theorem modifiersFor_speed (merged : Aggregate) (ctx : Context) (type : String) :
    (state.activeEntries merged ctx).modifiersFor (some ctx) (Sheet.speedSelectors type).1
        (Sheet.speedSelectors type).2 =
      (state.activeEntries merged ctx).modifiers.filter (·.AimsAtSpeed type) := by
  refine List.filter_congr fun m hm => ?_
  have happlies : Gated.applies ctx m = true := state.applies_of_mem_activeEntries hm
  have haimed := Sheet.mem_speedSelectors type m.selector
  rw [Bool.eq_iff_iff, decide_eq_true_iff]
  simp only [Modifier.isInForce, Option.getD_some, happlies, Bool.and_true, Bool.and_eq_true,
    Bool.or_eq_true, beq_iff_eq, List.contains_iff_mem, haimed]
  exact and_comm

end CharacterState

namespace Sheet

variable {state : CharacterState} {sources : List RuleSource} {merged : Aggregate} {sheet : Sheet}

/-- **The speeds of a sheet, read off the entries that apply.** The types are those of the character
and of the entries, each once if the character has each once, and a speed is the highest one of its
type with what the modifiers aimed at it come to. -/
structure SpeedsFrom (base : List (String × Int)) (sheet : Sheet) : Prop where
  types : ∀ type, type ∈ Fields.names sheet.speeds ↔
    type ∈ Fields.names base ∨ ∃ s ∈ sheet.active.speeds, s.type = type
  once : (Fields.names base).Nodup → (Fields.names sheet.speeds).Nodup
  values : ∀ type ∈ Fields.names sheet.speeds, ∃ top bonus : Int,
    Speed.top base sheet.active.speeds type = .integer top ∧
    Stacking.totalOf (sheet.active.modifiers.filter (·.AimsAtSpeed type)) =
      .ok (.integer bonus) ∧
    Fields.get? sheet.speeds type = some (.integer (top + bonus))

/-- What the modifiers aimed at a speed come to. -/
theorem totalOf_aimedAtSpeed (h : merged.Integral) (ctx : Context) (type : String) :
    Stacking.totalOf
        ((state.activeEntries merged ctx).modifiers.filter (·.AimsAtSpeed type)) =
      .ok (.integer (speedBonus (state.activeEntries merged ctx) ctx type)) := by
  unfold speedBonus
  rw [state.modifiersFor_speed merged ctx type]
  exact Stacking.totalOf_eq_reference fun m hm =>
    (state.activeEntries_integral h ctx).modifiers m (List.mem_filter.mp hm).1

/-- The sheet of an integral aggregate has its speeds from the entries that apply. -/
theorem speedsFrom_ofAggregate (state : CharacterState) (h : merged.Integral) :
    ∃ sheet, ofAggregate state merged = .ok sheet ∧
      sheet.active = state.activeEntries merged (state.finalContext merged) ∧
      sheet.SpeedsFrom state.baseSpeeds := by
  obtain ⟨healing, -, hsheet⟩ := ofAggregate_integral state h
  let active := state.activeEntries merged (state.finalContext merged)
  have hactive : active.Integral := state.activeEntries_integral h _
  let raised := raisedSpeeds state.baseSpeeds active.speeds
  let modified : String → Number → Number := fun type value =>
    .integer (value.toInt + speedBonus active (state.finalContext merged) type)
  let speeds := raised.map fun speed => (speed.1, modified speed.1 speed.2)
  have hnames : Fields.names speeds = Fields.names raised := Fields.names_map modified raised
  refine ⟨_, hsheet, rfl, fun type => ?_, fun hbase => ?_, fun type htype => ?_⟩
  · show type ∈ Fields.names speeds ↔ _
    rw [hnames]
    exact mem_names_raisedSpeeds
  · show (Fields.names speeds).Nodup
    rw [hnames]
    exact nodup_names_raisedSpeeds active.speeds hbase
  · replace htype : type ∈ Fields.names raised := hnames ▸ htype
    obtain ⟨top, htop⟩ := Speed.isIntegral_top state.baseSpeeds hactive.speeds type
    refine ⟨top, _, htop, totalOf_aimedAtSpeed h _ type, ?_⟩
    have hget : Fields.get? speeds type = (Fields.get? raised type).map (modified type) :=
      Fields.get?_map modified raised type
    rw [get?_raisedSpeeds_eq_top hactive.speeds htype, htop] at hget
    exact hget

/-- **A speed depends on three things only**: the character's own speed of the type, the speeds of
entries, and the modifiers that are aimed at it. -/
theorem SpeedsFrom.get?_congr {base base' : List (String × Int)} {sheet sheet' : Sheet}
    (h : sheet.SpeedsFrom base) (h' : sheet'.SpeedsFrom base') {type : String}
    (hbase : Fields.get? base type = Fields.get? base' type)
    (hspeeds : sheet.active.speeds = sheet'.active.speeds)
    (hmodifiers : sheet.active.modifiers.filter (·.AimsAtSpeed type) =
      sheet'.active.modifiers.filter (·.AimsAtSpeed type)) :
    Fields.get? sheet.speeds type = Fields.get? sheet'.speeds type := by
  have htypes : type ∈ Fields.names sheet.speeds ↔ type ∈ Fields.names sheet'.speeds := by
    rw [h.types, h'.types, Fields.mem_names_iff, Fields.mem_names_iff, hbase, hspeeds]
  by_cases htype : type ∈ Fields.names sheet.speeds
  · obtain ⟨top, bonus, htop, hbonus, hget⟩ := h.values type htype
    obtain ⟨top', bonus', htop', hbonus', hget'⟩ := h'.values type (htypes.mp htype)
    have hsameTop : Speed.top base sheet.active.speeds type =
        Speed.top base' sheet'.active.speeds type := by
      unfold Speed.top
      rw [hbase, hspeeds]
    obtain rfl : top = top' := Number.integer.inj (htop.symm.trans (hsameTop.trans htop'))
    rw [hmodifiers, hbonus'] at hbonus
    obtain rfl : bonus' = bonus := Number.integer.inj (Except.ok.inj hbonus)
    rw [hget, hget']
  · rw [Fields.get?_of_not_mem htype, Fields.get?_of_not_mem (mt htypes.mpr htype)]

/-! ## The sheet that is built -/

/-- What an integral aggregate gives is built into a sheet that has its speeds from the entries that
apply. -/
theorem exists_build_speedsFrom (state : CharacterState)
    (hmerged : state.gathered sources = .ok merged) (hintegral : merged.Integral) :
    ∃ sheet log, build state sources = .ok (sheet, log) ∧
      sheet.active = state.activeEntries merged (state.finalContext merged) ∧
      sheet.SpeedsFrom state.baseSpeeds := by
  obtain ⟨sheet, hsheet, hactive, hspeeds⟩ := speedsFrom_ofAggregate state hintegral
  obtain ⟨log, hbuild⟩ := build_eq_ok.mpr ⟨merged, hmerged, hsheet⟩
  exact ⟨sheet, log, hbuild, hactive, hspeeds⟩

/-- **The speeds of the sheet that is built.** Let all values that the sources give be integers.
Then the sheet has its speeds from the entries that apply. The order in which the character's own
speeds stand does not matter, and neither do modifiers that are not aimed at a speed. Speeds by
type, in any context, list the types of the entries that apply, each with the highest speed of that
type. -/
theorem build_speeds (hmerged : state.gathered sources = .ok merged) (hintegral : merged.Integral) :
    ∃ sheet log, build state sources = .ok (sheet, log) ∧
      sheet.active = state.activeEntries merged (state.finalContext merged) ∧
      sheet.SpeedsFrom state.baseSpeeds ∧
      (∀ base, base.Perm state.baseSpeeds → (Fields.names base).Nodup →
        ∃ sheet' log', build { state with baseSpeeds := base } sources = .ok (sheet', log') ∧
          ∀ type, Fields.get? sheet'.speeds type = Fields.get? sheet.speeds type) ∧
      (∀ type sources' modifiers logs,
        state.gathered sources' = .ok { merged with modifiers, logs } →
        (∀ m ∈ modifiers, m.IsIntegral) →
        modifiers.filter (·.AimsAtSpeed type) = merged.modifiers.filter (·.AimsAtSpeed type) →
        ∃ sheet' log', build state sources' = .ok (sheet', log') ∧
          Fields.get? sheet'.speeds type = Fields.get? sheet.speeds type) ∧
      ∀ (speeds : List Speed) (ctx : Option Context) (type : String),
        (type ∈ Fields.names (Speed.byType speeds ctx) ↔
          ∃ s ∈ speeds.filter (Gated.appliesIn ctx), s.type = type) ∧
        (type ∈ Fields.names (Speed.byType speeds ctx) →
          Fields.get? (Speed.byType speeds ctx) type =
            some (Speed.highest speeds ctx (some type))) := by
  obtain ⟨sheet, log, hbuild, hactive, hspeeds⟩ := exists_build_speedsFrom state hmerged hintegral
  refine ⟨sheet, log, hbuild, hactive, hspeeds, fun base hperm hnames => ?_,
    fun type sources' modifiers logs hmerged' hmodifiers haimed => ?_,
    fun speeds ctx type => ⟨Speed.mem_names_byType, Speed.get?_byType_eq_highest⟩⟩
  · -- what applies does not depend on the character's own speeds
    obtain ⟨sheet', log', hbuild', hactive', hspeeds'⟩ :=
      exists_build_speedsFrom { state with baseSpeeds := base } hmerged hintegral
    have hsame : sheet'.active = sheet.active := hactive'.trans hactive.symm
    refine ⟨sheet', log', hbuild', fun type => ?_⟩
    exact hspeeds'.get?_congr hspeeds (Fields.get?_perm hperm hnames type) (by rw [hsame])
      (by rw [hsame])
  · have hintegral' : ({ merged with modifiers, logs } : Aggregate).Integral :=
      { hintegral with modifiers := hmodifiers }
    obtain ⟨sheet', log', hbuild', hactive', hspeeds'⟩ :=
      exists_build_speedsFrom state hmerged' hintegral'
    refine ⟨sheet', log', hbuild', hspeeds'.get?_congr hspeeds rfl ?_ ?_⟩
    · rw [hactive, hactive']
      rfl
    · -- neither modifiers nor remarks bear on the context
      have hcontext : state.finalContext { merged with modifiers, logs } =
          state.finalContext merged := rfl
      rw [hactive, hactive', hcontext]
      simp only [CharacterState.activeEntries, Aggregate.filter, List.filter_append]
      rw [List.filter_comm, haimed, List.filter_comm]

/-- Winged boots: of two item bonuses one counts, in whichever of the ways it is aimed at the speed
on land. A speed below zero stays below what entries raise, and a rope that helps to climb changes
nothing. -/
theorem build_speeds_of_winged_boots :
    let state : CharacterState := { level := 3, baseSpeeds := [("land", 25), ("swim", -10)] }
    let bonus : String → Int → List (String × Data) := fun selector value =>
      [("key", .text "FlatModifier"), ("selector", .text selector), ("value", .int value),
        ("type", .text "item")]
    let boots : RuleSource :=
      { id := "boots"
        name := "Winged Boots"
        rules := [[("key", .text "BaseSpeed"), ("selector", .text "fly"), ("value", .int 20)],
          bonus "land-speed" 5, bonus "speed" 10, bonus "all-speeds" 5] }
    let rope : RuleSource := { id := "rope", name := "Rope", rules := [bonus "climb-speed" 15] }
    ∃ sheet log swapped log' roped log'', build state [boots] = .ok (sheet, log) ∧
      sheet.speeds = [("land", .integer 35), ("swim", .integer (-5)), ("fly", .integer 25)] ∧
      build { state with baseSpeeds := [("swim", -10), ("land", 25)] } [boots] =
        .ok (swapped, log') ∧
      (∀ type, Fields.get? swapped.speeds type = Fields.get? sheet.speeds type) ∧
      build state [boots, rope] = .ok (roped, log'') ∧
      Fields.get? roped.speeds "fly" = some (.integer 25) := by
  intro state bonus boots rope
  obtain ⟨merged, modifiers, hmerged, hmerged', hintegral, hmodifiers, haimed⟩ :
      ∃ merged modifiers, state.gathered [boots] = .ok merged ∧
        state.gathered [boots, rope] = .ok { merged with modifiers, logs := [] } ∧
        merged.Integral ∧ (∀ m ∈ modifiers, m.IsIntegral) ∧
        modifiers.filter (·.AimsAtSpeed "fly") = merged.modifiers.filter (·.AimsAtSpeed "fly") :=
    ⟨_, _, rfl, rfl, by decide +kernel, by decide +kernel, rfl⟩
  obtain ⟨sheet, log, hbuild, -, -, hswap, hrope, -⟩ := build_speeds hmerged hintegral
  have hready : (build state [boots]).toOption.any (fun built => decide (built.1.speeds =
      [("land", .integer 35), ("swim", .integer (-5)), ("fly", .integer 25)])) = true := by
    decide +kernel
  rw [hbuild] at hready
  have hspeeds := of_decide_eq_true hready
  obtain ⟨swapped, log', hswapped, hsame⟩ :=
    hswap [("swim", -10), ("land", 25)] (List.Perm.swap _ _ _) (by decide)
  obtain ⟨roped, log'', hroped, hfly⟩ := hrope "fly" [boots, rope] modifiers [] hmerged' hmodifiers
    haimed
  rw [hspeeds] at hfly
  exact ⟨sheet, log, swapped, log', roped, log'', hbuild, hspeeds, hswapped, hsame, hroped, hfly⟩

end Sheet

end RuleElements
