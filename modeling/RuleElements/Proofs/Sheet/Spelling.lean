import RuleElements.Proofs.Sheet.Options
import RuleElements.Proofs.Text.Casing

/-!
# The spelling of traits

The final traits of a character are in lowercase however they are spelled, and what applies in the
end is decided with them. Only the first round looks at the traits as they are spelled: a gate of a
change of traits, or of an option that such a change may depend on, asks for a trait in lowercase
and does not find it in capitals. Lowering the traits of a character can show at these gates and
nowhere else.

Main definitions:
* `CharacterState.lowered`: a character with its traits in lowercase.
* `Context.testedTrait?`: the trait that an option asks for.
* `Aggregate.firstGates`: the gates that are looked at in the first round.

Results:
* `Context.holds_congr_of_trait`: contexts agree on an option if they agree on the trait that it
  asks for.
* `Sheet.ofAggregate_lowered`: equal final traits make equal sheets.
* `Sheet.build_lowered`: where the spelling shows, and where it does not.
-/

namespace RuleElements

/-! ## Tests of traits -/

namespace Context

variable {a b : Context}

/-- The trait that an option asks for, if it asks for one. -/
def testedTrait? (option : String) : Option String :=
  match Text.splitAt ':' option with
  | "self" :: "trait" :: name :: _ => some name
  | _ => none

/-- Contexts agree on an option that is in force in both or in neither if they agree on the trait
that it asks for. -/
theorem holds_congr_of_trait {o : String} (hlevel : a.level = b.level)
    (heffects : a.effects = b.effects) (hoption : o ∈ a.options ↔ o ∈ b.options)
    (htrait : ∀ name, testedTrait? o = some name →
      (name ∈ a.traits.getD [] ↔ name ∈ b.traits.getD [])) : a.holds o = b.holds o := by
  have hforce : a.hasOption o = b.hasOption o := by
    unfold hasOption
    rw [Bool.eq_iff_iff, List.contains_iff_mem, List.contains_iff_mem, hoption]
  have hself : a.passesSelf (Text.splitAt ':' o) = b.passesSelf (Text.splitAt ':' o) := by
    unfold testedTrait? at htrait
    unfold passesSelf passesLevel
    rw [hlevel, heffects]
    split
    · rfl
    · rename_i name rest hparts
      rw [hparts] at htrait
      rw [Bool.eq_iff_iff, List.contains_iff_mem, List.contains_iff_mem, htrait name rfl]
    · rfl
    · rfl
  unfold holds
  rw [hforce, hself]

end Context

/-- The traits that a predicate asks for. -/
def Predicate.testedTraits (p : Option Predicate) : List String :=
  (Predicate.names p).filterMap Context.testedTrait?

namespace Aggregate

/-- The gates that are looked at in the first round: those of the enabled entries that contribute
options, and those of changes of traits. -/
def firstGates (a : Aggregate) : List (Option Predicate) :=
  (a.rollOptions.filter (·.enabled)).map (·.predicate) ++
    (a.toggleProperties.filter (·.enabled)).map (·.predicate) ++ a.traitChanges.map (·.predicate)

variable {a : Aggregate}

theorem mem_firstGates_of_rollOption {r : RollOption} (hr : r ∈ a.rollOptions)
    (henabled : r.enabled = true) : r.predicate ∈ a.firstGates :=
  List.mem_append_left _ (List.mem_append_left _
    (List.mem_map.mpr ⟨r, List.mem_filter.mpr ⟨hr, henabled⟩, rfl⟩))

theorem mem_firstGates_of_toggle {t : ToggleProperty} (ht : t ∈ a.toggleProperties)
    (henabled : t.enabled = true) : t.predicate ∈ a.firstGates :=
  List.mem_append_left _ (List.mem_append_right _
    (List.mem_map.mpr ⟨t, List.mem_filter.mpr ⟨ht, henabled⟩, rfl⟩))

theorem mem_firstGates_of_traitChange {c : TraitChange} (hc : c ∈ a.traitChanges) :
    c.predicate ∈ a.firstGates :=
  List.mem_append_right _ (List.mem_map.mpr ⟨c, hc, rfl⟩)

end Aggregate

/-! ## Characters with their traits in lowercase -/

/-- Lowering the traits first does not change what becomes of them, if the same changes apply. -/
theorem Trait.final_map_lower (base : List String) (changes : List TraitChange)
    (ctx : Option Context) : final (base.map Text.lower) changes ctx = final base changes ctx := by
  have hbase : (base.map Text.lower).map Text.lower = base.map Text.lower := by
    rw [List.map_map]
    exact List.map_congr_left fun t _ => Text.lower_lower t
  unfold final
  rw [hbase]

namespace CharacterState

variable (state : CharacterState) {a : Aggregate}

/-- The character with its traits in lowercase. -/
def lowered : CharacterState := { state with traits := state.traits.map Text.lower }

/-- **Gates that do not see the spelling**: whatever trait a gate of the first round asks for, it is
among the traits as they are spelled if it is among them in lowercase, and the other way round. -/
def SpelledAlike (a : Aggregate) : Prop :=
  ∀ gate ∈ a.firstGates, ∀ name ∈ Predicate.testedTraits gate,
    (name ∈ state.traits ↔ name ∈ state.lowered.traits)

instance : Decidable (state.SpelledAlike a) :=
  inferInstanceAs (Decidable (∀ gate ∈ a.firstGates, ∀ name ∈ Predicate.testedTraits gate,
    (name ∈ state.traits ↔ name ∈ state.lowered.traits)))

variable {state}

/-- A gate that does not see the spelling gives the same answer in both contexts, if the options in
force that it looks up are the same. -/
theorem SpelledAlike.holdsIn_eq (h : state.SpelledAlike a) {further further' : List String}
    (hfurther : ∀ o, o ∈ further ↔ o ∈ further') {gate : Option Predicate}
    (hgate : gate ∈ a.firstGates) :
    Predicate.holdsIn (state.context state.traits further) gate =
      Predicate.holdsIn (state.context state.lowered.traits further') gate := by
  refine Predicate.holdsIn_congr fun o ho => ?_
  refine Context.holds_congr_of_trait rfl rfl ?_ fun name hname => ?_
  · show o ∈ state.options further ↔ o ∈ state.options further'
    rw [mem_options, mem_options, hfurther]
  · exact h gate hgate name (List.mem_filterMap.mpr ⟨o, ho, hname⟩)

/-- The same options are collected in the first round. -/
theorem SpelledAlike.mem_activeOptions_iff (h : state.SpelledAlike a) (o : String) :
    o ∈ a.activeOptions (state.context state.traits []) ↔
      o ∈ a.activeOptions (state.context state.lowered.traits []) := by
  have hsettled : a.Settled (state.context state.traits [])
      (state.context state.lowered.traits []) :=
    { rollOptions := fun r hr henabled =>
        h.holdsIn_eq (fun _ => .rfl) (Aggregate.mem_firstGates_of_rollOption hr henabled)
      toggles := fun t ht henabled =>
        h.holdsIn_eq (fun _ => .rfl) (Aggregate.mem_firstGates_of_toggle ht henabled) }
  rw [Aggregate.mem_activeOptions, Aggregate.mem_activeOptions, hsettled.mem_offers_iff]

/-- **The final traits are the same** if no gate of the first round sees the spelling. -/
theorem SpelledAlike.finalTraits_eq (h : state.SpelledAlike a) :
    state.lowered.finalTraits a = state.finalTraits a := by
  have hchanges : a.traitChanges.filter
        (Gated.applies (state.collectedContext a state.lowered.traits)) =
      a.traitChanges.filter (Gated.applies (state.collectedContext a state.traits)) :=
    List.filter_congr fun c hc =>
      (h.holdsIn_eq h.mem_activeOptions_iff (Aggregate.mem_firstGates_of_traitChange hc)).symm
  show Trait.final (state.traits.map Text.lower) _ _ = _
  rw [Trait.final_map_lower]
  exact congrArg (fun changes : List TraitChange =>
    sortedTexts (changes.foldl Trait.change (state.traits.map Text.lower))) hchanges

end CharacterState

/-! ## Sheets -/

namespace Sheet

variable {state : CharacterState} {sources : List RuleSource} {merged : Aggregate}

/-- **A sheet sees the traits only through the final ones.** -/
theorem ofAggregate_lowered (h : state.lowered.finalTraits merged = state.finalTraits merged) :
    ofAggregate state.lowered merged = ofAggregate state merged := by
  have hcontext : state.lowered.finalContext merged = state.finalContext merged := by
    show state.collectedContext merged (state.lowered.finalTraits merged) = _
    rw [h]
    rfl
  unfold ofAggregate
  rw [h, hcontext]
  rfl

/-- A sheet is not built if the sources cannot be processed. -/
theorem build_eq_error {fault : ArithmeticFault}
    (h : RuleSource.processAll sources state.level (some state.choices) = .error fault) :
    build state sources = .error fault := by
  unfold build
  rw [h]
  rfl

/-- Equal final traits make equal sheets, with equal logs. What the sources give does not depend on
the traits, so it fails with both or with neither. -/
theorem build_lowered_eq (h : ∀ merged, state.gathered sources = .ok merged →
      state.lowered.finalTraits merged = state.finalTraits merged) :
    build state.lowered sources = build state sources := by
  cases hpasses : RuleSource.processAll sources state.level (some state.choices) with
  | error fault =>
    rw [build_eq_error hpasses]
    exact build_eq_error hpasses
  | ok passes =>
    have hlowered : RuleSource.processAll sources state.lowered.level
        (some state.lowered.choices) = .ok passes := hpasses
    have hmerged : state.gathered sources = .ok (Aggregate.merge (passes.map (·.aggregate))) :=
      Faulting.map_eq_ok.mpr ⟨passes, hpasses, rfl⟩
    have hsheet : ofAggregate state.lowered (Pass.merge passes).aggregate =
        ofAggregate state (Pass.merge passes).aggregate := ofAggregate_lowered (h _ hmerged)
    unfold build
    rw [hpasses, hlowered]
    show (ofAggregate state.lowered (Pass.merge passes).aggregate >>= _) =
      (ofAggregate state (Pass.merge passes).aggregate >>= _)
    rw [hsheet]
    rfl

/-- The traits of a sheet are the final ones. -/
theorem traits_of_build {sheet : Sheet} {log : List LogLine}
    (h : build state sources = .ok (sheet, log)) : ∃ merged,
      state.gathered sources = .ok merged ∧ sheet.traits = state.finalTraits merged := by
  obtain ⟨merged, hmerged, hsheet⟩ := build_eq_ok.mp ⟨log, h⟩
  obtain ⟨speeds, healing, -, -, rfl⟩ := ofAggregate_eq_ok.mp hsheet
  exact ⟨merged, hmerged, rfl⟩

/-- **Where the spelling of traits shows.** The traits in lowercase give the same sheet and log, or
the same failure, if no gate of the first round sees the spelling. In any case the two sheets are
the same in all respects as soon as their traits are. -/
theorem build_lowered (state : CharacterState) (sources : List RuleSource) :
    ((∀ merged, state.gathered sources = .ok merged → state.SpelledAlike merged) →
      build state.lowered sources = build state sources) ∧
    ∀ sheet log sheet' log', build state sources = .ok (sheet, log) →
      build state.lowered sources = .ok (sheet', log') →
        ((sheet', log') = (sheet, log) ↔ sheet'.traits = sheet.traits) := by
  refine ⟨fun h => build_lowered_eq fun merged hmerged => (h merged hmerged).finalTraits_eq, ?_⟩
  intro sheet log sheet' log' hbuild hbuild'
  constructor
  · intro hsame
    exact congrArg (fun built : Sheet × List LogLine => built.1.traits) hsame
  · intro htraits
    obtain ⟨merged, hmerged, hfinal⟩ := traits_of_build hbuild
    obtain ⟨lowered, hlowered, hfinal'⟩ := traits_of_build hbuild'
    obtain rfl : lowered = merged := Except.ok.inj (hlowered.symm.trans hmerged)
    rw [hfinal, hfinal'] at htraits
    have hsame : build state.lowered sources = build state sources := by
      refine build_lowered_eq fun gathered hgathered => ?_
      obtain rfl := Except.ok.inj (hmerged.symm.trans hgathered)
      exact htraits
    exact Except.ok.inj (hbuild'.symm.trans (hsame.trans hbuild))

/-- A resistance that is gated on a trait in capitals, beside a change of traits that is gated on a
trait the character does not have. -/
theorem build_lowered_of_dwarf :
    let state : CharacterState := { traits := ["Dwarf"] }
    let heritage : RuleSource :=
      { id := "heritage"
        name := "Heritage"
        rules := [[("key", .text "ActorTraits"), ("add", .list [.text "Tall"]),
            ("predicate", .list [.text "self:trait:elf"])],
          [("key", .text "Resistance"), ("type", .text "fire"), ("value", .int 2),
            ("predicate", .list [.text "self:trait:dwarf"])]] }
    ∃ sheet log, build state [heritage] = .ok (sheet, log) ∧
      build state.lowered [heritage] = .ok (sheet, log) ∧
      sheet.resistances = [("fire", .integer 2)] := by
  intro state heritage
  have halike : ∀ merged, state.gathered [heritage] = .ok merged → state.SpelledAlike merged := by
    rintro merged ⟨⟩
    decide +kernel
  obtain ⟨⟨sheet, log⟩, hbuild, hresists⟩ : ∃ built, build state [heritage] = .ok built ∧
      built.1.resistances = [("fire", .integer 2)] := by
    have hready : (build state [heritage]).toOption.any
        (·.1.resistances == [("fire", .integer 2)]) = true := by decide +kernel
    cases hbuild : build state [heritage] with
    | error fault => rw [hbuild] at hready; cases hready
    | ok built => rw [hbuild] at hready; exact ⟨built, rfl, eq_of_beq hready⟩
  exact ⟨sheet, log, hbuild, ((build_lowered state [heritage]).1 halike).trans hbuild, hresists⟩

/-- A change of traits that is gated on a trait which the character has in capitals is not made. -/
theorem traits_differ_for_capitals :
    ¬ ∀ state sources, build state.lowered sources = build state sources := by
  intro hclaim
  let state : CharacterState := { traits := ["Human"] }
  let rite : RuleSource :=
    { id := "rite"
      name := "Rite"
      rules := [[("key", .text "ActorTraits"), ("add", .list [.text "undead"]),
        ("remove", .list [.text "human"]), ("predicate", .list [.text "self:trait:human"])]] }
  have hlowered : (build state.lowered [rite]).toOption.map (·.1.traits) = some ["undead"] := by
    decide +kernel
  have hspelled : (build state [rite]).toOption.map (·.1.traits) = some ["human"] := by
    decide +kernel
  rw [hclaim state [rite], hspelled] at hlowered
  revert hlowered
  decide

end Sheet

end RuleElements
