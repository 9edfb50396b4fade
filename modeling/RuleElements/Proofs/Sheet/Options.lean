import RuleElements.Proofs.Predicate.Monotone
import RuleElements.Proofs.Sheet.Build
import RuleElements.Proofs.Text.Sorted

/-!
# The options of a sheet

Options are collected in one pass: with the final traits, against what the character brings of
itself. What is kept as active is decided afterwards, with the collected options in force. So an
entry that is gated on a collected option is kept, but what it would contribute is not collected;
and an entry that is gated on the absence of one has contributed and is not kept. Where no entry is
gated so, the options of the sheet are those of its active entries.

Main definitions:
* `Sheet.context`: the context with the options of a sheet in force.
* `Aggregate.Settled`: two contexts in which the same entries contribute options.

Results:
* `Aggregate.offers_mono`: without negation, more is contributed where more holds.
* `Aggregate.settled_of_unnamed`: contexts are settled that agree on the options that gate.
* `Sheet.mem_rollOptions_of_build`: the options of a sheet, and those of its active entries.
-/

namespace RuleElements

/-! ## Entries that contribute options -/

namespace Aggregate

variable {a : Aggregate} {c d : Context}

/-- **Contexts that are settled**: the same enabled entries contribute their options in both. -/
structure Settled (a : Aggregate) (c d : Context) : Prop where
  rollOptions : ∀ r ∈ a.rollOptions, r.enabled = true → Gated.applies c r = Gated.applies d r
  toggles : ∀ t ∈ a.toggleProperties, t.enabled = true → Gated.applies c t = Gated.applies d t

/-- An option is contributed by an enabled entry that applies. -/
theorem mem_offers_filter {o : String} : o ∈ (a.filter c).offers ↔
    (∃ r ∈ a.rollOptions, r.enabled = true ∧ Gated.applies c r = true ∧ r.option = o) ∨
      ∃ t ∈ a.toggleProperties, t.enabled = true ∧ Gated.applies c t = true ∧ o ∈ t.options := by
  have htoggle : ∀ t : ToggleProperty, o ∈ t.options → t.enabled = true := by
    intro t ht
    unfold ToggleProperty.options at ht
    split at ht
    · assumption
    · cases ht
  simp only [offers, filter, List.mem_append, List.mem_map, List.mem_filter, List.mem_flatMap]
  constructor
  · rintro (⟨r, ⟨⟨hr, happlies⟩, henabled⟩, rfl⟩ | ⟨t, ⟨ht, happlies⟩, ho⟩)
    · exact .inl ⟨r, hr, henabled, happlies, rfl⟩
    · exact .inr ⟨t, ht, htoggle t ho, happlies, ho⟩
  · rintro (⟨r, hr, henabled, happlies, rfl⟩ | ⟨t, ht, -, happlies, ho⟩)
    · exact .inl ⟨r, ⟨⟨hr, happlies⟩, henabled⟩, rfl⟩
    · exact .inr ⟨t, ⟨ht, happlies⟩, ho⟩

/-- In settled contexts the same options are contributed. -/
theorem Settled.mem_offers_iff (h : a.Settled c d) {o : String} :
    o ∈ (a.filter c).offers ↔ o ∈ (a.filter d).offers := by
  rw [mem_offers_filter, mem_offers_filter]
  refine or_congr (exists_congr fun r => ?_) (exists_congr fun t => ?_)
  · refine and_congr_right fun hr => and_congr_right fun henabled => ?_
    rw [h.rollOptions r hr henabled]
  · refine and_congr_right fun ht => and_congr_right fun henabled => ?_
    rw [h.toggles t ht henabled]

/-- **Contexts of one character are settled** if they agree on the options that the predicates of
the enabled entries name. -/
theorem settled_of_unnamed (hlevel : c.level = d.level) (htraits : c.traits = d.traits)
    (heffects : c.effects = d.effects)
    (hroll : ∀ r ∈ a.rollOptions, r.enabled = true → ∀ o ∈ Predicate.names r.predicate,
      (o ∈ c.options ↔ o ∈ d.options))
    (htoggle : ∀ t ∈ a.toggleProperties, t.enabled = true → ∀ o ∈ Predicate.names t.predicate,
      (o ∈ c.options ↔ o ∈ d.options)) : a.Settled c d where
  rollOptions r hr henabled := Predicate.holdsIn_congr fun o ho =>
    Context.holds_congr hlevel htraits heffects (hroll r hr henabled o ho)
  toggles t ht henabled := Predicate.holdsIn_congr fun o ho =>
    Context.holds_congr hlevel htraits heffects (htoggle t ht henabled o ho)

/-- Without negation, what is contributed is contributed in every context that holds more. -/
theorem offers_mono (more : ∀ o, c.holds o = true → d.holds o = true)
    (hroll : ∀ r ∈ a.rollOptions, r.enabled = true → Predicate.isPositive r.predicate = true)
    (htoggle : ∀ t ∈ a.toggleProperties, t.enabled = true →
      Predicate.isPositive t.predicate = true) {o : String} (h : o ∈ (a.filter c).offers) :
    o ∈ (a.filter d).offers := by
  rw [mem_offers_filter] at h ⊢
  rcases h with ⟨r, hr, henabled, happlies, ho⟩ | ⟨t, ht, henabled, happlies, ho⟩
  · exact .inl ⟨r, hr, henabled, Predicate.holdsIn_mono more (hroll r hr henabled) happlies, ho⟩
  · exact .inr ⟨t, ht, henabled, Predicate.holdsIn_mono more (htoggle t ht henabled) happlies, ho⟩

end Aggregate

/-! ## Sheets -/

namespace Sheet

variable {state : CharacterState} {sources : List RuleSource} {merged : Aggregate} {sheet : Sheet}
  {log : List LogLine}

/-- The context of a character with the traits and the options of its sheet. -/
def context (state : CharacterState) (sheet : Sheet) : Context where
  options := sheet.rollOptions
  level := some state.level
  traits := some sheet.traits
  effects := some state.effects

/-- The options of a sheet are collected in one pass. -/
theorem mem_rollOptions (h : ofAggregate state merged = .ok sheet) {o : String} :
    o ∈ sheet.rollOptions ↔
      o ∈ state.ownOptions ∨ o ∈ (merged.filter (state.context sheet.traits [])).offers := by
  obtain ⟨speeds, healing, -, -, rfl⟩ := ofAggregate_eq_ok.mp h
  show o ∈ sortedTexts (state.finalContext merged).options ↔ _
  rw [mem_sortedTexts]
  show o ∈ state.options (merged.activeOptions _) ↔ _
  rw [CharacterState.mem_options, Aggregate.mem_activeOptions]
  rfl

/-- The entries that are active on a sheet and have options are those that apply with the options of
the sheet in force. -/
theorem active_entries (h : ofAggregate state merged = .ok sheet) :
    sheet.active.rollOptions = merged.rollOptions.filter (Gated.applies (context state sheet)) ∧
      sheet.active.toggleProperties =
        merged.toggleProperties.filter (Gated.applies (context state sheet)) := by
  obtain ⟨speeds, healing, -, -, rfl⟩ := ofAggregate_eq_ok.mp h
  have halike : (state.finalContext merged).Alike
      (context state (ofActive state (state.finalTraits merged) (state.finalContext merged)
        (state.activeEntries merged (state.finalContext merged)) speeds healing merged.logs)) :=
    ⟨fun o => mem_sortedTexts.symm, rfl, rfl, rfl⟩
  simp only [← Gated.applies_of_alike halike]
  exact ⟨rfl, rfl⟩

/-- What is active on a sheet contributes what applies with the options of the sheet in force. -/
theorem active_offers (h : ofAggregate state merged = .ok sheet) :
    sheet.active.offers = (merged.filter (context state sheet)).offers := by
  obtain ⟨hroll, htoggle⟩ := active_entries h
  unfold Aggregate.offers
  rw [hroll, htoggle]
  rfl

/-- **The options of a sheet** are those of the character, and those that enabled entries contribute
where they apply with the traits of the sheet and the options of the character alone. The entries of
this kind that are active on the sheet are, in order, those that apply with the options of the sheet
in force instead. So the options of the sheet are those of the character and of its active entries
if the same entries contribute in both contexts; and none of them is without an active entry if no
entry is gated on a negation. -/
theorem mem_rollOptions_of_build (h : build state sources = .ok (sheet, log)) :
    ∃ merged, state.gathered sources = .ok merged ∧
      (∀ o, o ∈ sheet.rollOptions ↔
        o ∈ state.ownOptions ∨ o ∈ (merged.filter (state.context sheet.traits [])).offers) ∧
      sheet.active.rollOptions = merged.rollOptions.filter (Gated.applies (context state sheet)) ∧
      sheet.active.toggleProperties =
        merged.toggleProperties.filter (Gated.applies (context state sheet)) ∧
      (merged.Settled (state.context sheet.traits []) (context state sheet) →
        ∀ o, o ∈ sheet.rollOptions ↔ o ∈ state.ownOptions ∨ o ∈ sheet.active.offers) ∧
      ((∀ r ∈ merged.rollOptions, r.enabled = true → Predicate.isPositive r.predicate = true) →
        (∀ t ∈ merged.toggleProperties, t.enabled = true →
          Predicate.isPositive t.predicate = true) →
        ∀ o ∈ sheet.rollOptions, o ∈ state.ownOptions ∨ o ∈ sheet.active.offers) := by
  obtain ⟨merged, hmerged, hsheet⟩ := build_eq_ok.mp ⟨log, h⟩
  have hactive := active_offers hsheet
  obtain ⟨hkept, hswitched⟩ := active_entries hsheet
  refine ⟨merged, hmerged, fun o => mem_rollOptions hsheet, hkept, hswitched,
    fun hsettled o => ?_, fun hroll htoggle o ho => ?_⟩
  · rw [mem_rollOptions hsheet, hactive, hsettled.mem_offers_iff]
  · have hown : ∀ o ∈ state.options [], o ∈ sheet.rollOptions := fun o ho =>
      (mem_rollOptions hsheet).mpr ((CharacterState.mem_options.mp ho).imp_right nofun)
    have hmore : ∀ o, (state.context sheet.traits []).holds o = true →
        (context state sheet).holds o = true := fun o =>
      Context.holds_mono (a := state.context sheet.traits []) (b := context state sheet) rfl rfl rfl
        hown
    rw [hactive]
    exact ((mem_rollOptions hsheet).mp ho).imp_right (Aggregate.offers_mono hmore hroll htoggle)

/-- An option that is gated on a collected one is active and not in force. -/
theorem rollOptions_lag_on_chain :
    ¬ ∀ state sources sheet log, build state sources = .ok (sheet, log) →
      ∀ o, o ∈ sheet.rollOptions ↔ o ∈ state.ownOptions ∨ o ∈ sheet.active.offers := by
  intro hclaim
  let chain : RuleSource :=
    { id := "chain"
      name := "Chain"
      rules := [[("key", .text "RollOption"), ("option", .text "a")],
        [("key", .text "RollOption"), ("option", .text "b"), ("predicate", .list [.text "a"])]] }
  have hchain : (build {} [chain]).toOption.map (fun built =>
      (built.1.rollOptions, built.1.active.offers)) = some (["a"], ["a", "b"]) := by decide +kernel
  cases hbuild : build {} [chain] with
  | error fault => rw [hbuild] at hchain; cases hchain
  | ok built =>
    rw [hbuild] at hchain
    obtain ⟨hoptions, hoffers⟩ := Prod.mk.inj (Option.some.inj hchain)
    have hb := (hclaim {} [chain] built.1 built.2 hbuild "b").mpr
      (.inr (by rw [hoffers]; decide))
    rw [hoptions] at hb
    revert hb
    decide

/-- A stance that is gated on the character's own option, which is in force in both contexts. -/
theorem mem_rollOptions_of_build_of_stance :
    let state : CharacterState := { rollOptions := ["armed"] }
    let stance : RuleSource :=
      { id := "stance"
        name := "Stance"
        rules := [[("key", .text "RollOption"), ("option", .text "stance"),
          ("predicate", .list [.text "armed"])]] }
    ∃ sheet log, build state [stance] = .ok (sheet, log) ∧
      (∀ o, o ∈ sheet.rollOptions ↔ o ∈ state.ownOptions ∨ o ∈ sheet.active.offers) ∧
      sheet.active.offers = ["stance"] := by
  intro state stance
  obtain ⟨gathered, hgathered, hgates⟩ : ∃ gathered, state.gathered [stance] = .ok gathered ∧
      (gathered.rollOptions.all (fun r => Predicate.names r.predicate == ["armed"]) &&
        gathered.toggleProperties.isEmpty) = true := ⟨_, rfl, by decide +kernel⟩
  obtain ⟨⟨sheet, log⟩, hbuild, hoffers⟩ : ∃ built, build state [stance] = .ok built ∧
      built.1.active.offers = ["stance"] := by
    have hready : (build state [stance]).toOption.any (·.1.active.offers == ["stance"]) = true := by
      decide +kernel
    cases hbuild : build state [stance] with
    | error fault => rw [hbuild] at hready; cases hready
    | ok built => rw [hbuild] at hready; exact ⟨built, rfl, eq_of_beq hready⟩
  obtain ⟨merged, hmerged, hoptions, -, -, hsettled, -⟩ := mem_rollOptions_of_build hbuild
  obtain rfl : merged = gathered := Except.ok.inj (hmerged.symm.trans hgathered)
  rw [Bool.and_eq_true, List.all_eq_true, List.isEmpty_iff] at hgates
  have harmed : "armed" ∈ state.ownOptions := by decide
  refine ⟨sheet, log, hbuild, hsettled ?_, hoffers⟩
  refine Aggregate.settled_of_unnamed rfl rfl rfl (fun r hr _ o ho => ?_) ?_
  · rw [eq_of_beq (hgates.1 r hr), List.mem_singleton] at ho
    subst ho
    exact iff_of_true (CharacterState.mem_options.mpr (.inl harmed))
      ((hoptions "armed").mpr (.inl harmed))
  · rw [hgates.2]
    exact nofun

end Sheet

end RuleElements
