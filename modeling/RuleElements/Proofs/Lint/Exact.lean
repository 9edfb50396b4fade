import RuleElements.Proofs.Lint.Effect
import RuleElements.Proofs.Processing.Accounting

/-!
# How exact linting is

Linting looks at the value of a rule element whatever its kind, if that is a text, and asks whether
it can be read as it stands; processing asks each kind for what it needs. The two agree but for
three sorts of rule elements. A rune whose operand is an infinity or a NaN can never take effect,
and nothing is said about it. Where the text is no formula in the first place, a size or the name of
an immunity, or is one only after placeholders are filled, a problem is reported though the rule
element can take effect. And an immunity may have a name that has the form of a formula with too
many digits, on which linting fails.

Main definitions:
* `ParsedElement.CanTakeEffect`: some pass over a rule element alone gives an entry.
* `Linting.IsSilent`: linting comes to its end and says nothing.
* `ParsedElement.Overlooked`: rule elements that cannot take effect and about which nothing is said.
* `ParsedElement.Misreported`: rule elements that can take effect and are reported.
* `ParsedElement.Unlintable`: rule elements that can take effect and on which linting fails.
* `ParsedElement.HasLongValue`: rule elements whose value has too many digits.

Results:
* `RuleElement.lint_isSilent_iff`, `ParsedElement.lint_fault_eq_none_iff`: when nothing is said
  about a rule element, and when linting comes to its end.
* `ParsedElement.lint_differs_iff`: exactly where linting and processing differ.
-/

namespace RuleElements

/-! ## What linting says -/

/-- **Nothing is said**: no fault ends the search, and no problem is found. -/
def Linting.IsSilent (l : Linting) : Prop := l.fault = none ∧ l.problems = []

/-- Linting fails on a text exactly if it has too many digits to be read. -/
theorem Kind.lintText_fault (kind : Kind) (s : String) :
    (kind.lintText s).fault = (Operand.text s).readFault? := by
  unfold lintText
  cases hfault : (Operand.text s).readFault? with
  | some fault =>
    rw [show Operand.resolveText 0 s = .failed fault from Operand.resolve_of_readFault? hfault]
  | none =>
    cases hread : (Operand.text s).isReadable with
    | true =>
      obtain ⟨n, hn, -⟩ := Operand.resolve_zero hread
      rw [show Operand.resolveText 0 s = .made n from hn]
    | false =>
      obtain ⟨reasons, hinert⟩ := Operand.resolve_of_unreadable 0 hread hfault
      rw [show Operand.resolveText 0 s = .inert reasons from hinert]

/-- Nothing is said about a text exactly if it can be read. -/
theorem Kind.lintText_isSilent_iff (kind : Kind) (s : String) :
    (kind.lintText s).IsSilent ↔ (Operand.text s).isReadable = true := by
  unfold Linting.IsSilent
  rw [lintText_fault]
  unfold lintText
  cases hread : (Operand.text s).isReadable with
  | true =>
    obtain ⟨n, hn, -⟩ := Operand.resolve_zero hread
    rw [show Operand.resolveText 0 s = .made n from hn]
    exact iff_of_true ⟨Operand.readFault?_of_isReadable hread, rfl⟩ rfl
  | false =>
    refine iff_of_false (fun ⟨hfault, hproblems⟩ => ?_) Bool.false_ne_true
    obtain ⟨reasons, hinert⟩ := Operand.resolve_of_unreadable 0 hread hfault
    rw [show Operand.resolveText 0 s = .inert reasons from hinert] at hproblems
    cases hproblems

/-- Why the value of an effect fails to be read. -/
def Effect.fault? (effect : Effect) : Option ArithmeticFault :=
  effect.valueText?.bind fun s => (Operand.text s).readFault?

/-- **An effect about which nothing is said**: its value can be read if it is a text, and it has all
that it needs. -/
structure Effect.Silent (effect : Effect) : Prop where
  readable : ∀ s, effect.valueText? = some s → (Operand.text s).isReadable = true
  complete : effect.lacks = []

/-- **When linting fails on a rule element**: its value is a text that fails to be read. -/
theorem RuleElement.lint_fault (e : RuleElement) : e.lint.fault = e.effect.fault? := by
  have hvalue : e.lintValue.fault = e.effect.fault? := by
    unfold lintValue Effect.fault?
    cases e.effect.valueText? with
    | none => rfl
    | some s => exact e.kind.lintText_fault s
  unfold lint
  cases hfault : e.lintValue.fault with
  | some fault => simp only [hfault, ← hvalue]
  | none => simp only [hfault, ← hvalue]

/-- Nothing is said about a value that is no text, or that can be read. -/
theorem RuleElement.lintValue_isSilent_iff (e : RuleElement) : e.lintValue.IsSilent ↔
    ∀ s, e.effect.valueText? = some s → (Operand.text s).isReadable = true := by
  unfold lintValue
  cases e.effect.valueText? with
  | none => exact iff_of_true ⟨rfl, rfl⟩ nofun
  | some s =>
    rw [Kind.lintText_isSilent_iff]
    refine ⟨fun h t ht => ?_, fun h => h s rfl⟩
    cases ht
    exact h

/-- **When nothing is said about a rule element.** -/
theorem RuleElement.lint_isSilent_iff (e : RuleElement) : e.lint.IsSilent ↔ e.effect.Silent := by
  have hparts : e.lint.IsSilent ↔ e.lintValue.IsSilent ∧ e.effect.lacks = [] := by
    unfold lint Linting.IsSilent
    cases hfault : e.lintValue.fault with
    | some fault => simp [hfault]
    | none => simp [hfault]
  rw [hparts, lintValue_isSilent_iff]
  exact ⟨fun h => ⟨h.1, h.2⟩, fun h => ⟨h.readable, h.complete⟩⟩

/-! ## Effects -/

namespace Effect

/-- **Effects that cannot work and about which nothing is said**: runes whose operand is an infinity
or a NaN. -/
def Overlooked : Effect → Prop
  | .weaponPotency rule => rule.value.isNonfinite = true
  | .striking rule => rule.value.isNonfinite = true
  | _ => False

/-- **Effects that can work and are reported**: named sizes, single immunities whose name is no
value, and property changes whose value has one only with its placeholders filled. -/
def Misreported : Effect → Prop
  | .activeEffectLike rule => rule.value.isReadable = false ∧ rule.value.Fillable
  | .immunity rule => ∃ name, rule.value = .one name ∧ (Operand.text name).isReadable = false ∧
      (Operand.text name).readFault? = none
  | .creatureSize rule => rule.value ≠ none
  | _ => False

/-- **Effects that can work and on which linting fails**: single immunities whose name has the form
of a formula, with too many digits to be read. -/
def Unlintable : Effect → Prop
  | .immunity rule => ∃ name count, rule.value = .one name ∧
      Formula.Oversized count (Text.strip name).toList
  | _ => False

/-- Of an effect linting and processing differ exactly in these cases. -/
structure DiffersAsListed (effect : Effect) : Prop where
  overlooked : effect.Silent ∧ ¬ effect.CanWork ↔ effect.Overlooked
  misreported : (¬ effect.Silent ∧ effect.fault? = none) ∧ effect.CanWork ↔ effect.Misreported
  unlintable : effect.fault? ≠ none ∧ effect.CanWork ↔ effect.Unlintable

/-- The value of an operand is read off its text, if it is one. -/
theorem readable_text?_iff (value : Operand) :
    (∀ s, value.text? = some s → (Operand.text s).isReadable = true) ↔ value.isReadable = true := by
  cases value with
  | number n => exact ⟨fun _ => rfl, nofun⟩
  | text s =>
    refine ⟨fun h => h s rfl, fun h t ht => ?_⟩
    cases ht
    exact h

/-- Of an effect with an operand and all that it needs, nothing is said if the operand can be
read. -/
theorem silent_iff_of_operand {effect : Effect} {value : Operand}
    (hvalue : effect.valueText? = value.text?) (hcomplete : effect.lacks = []) :
    effect.Silent ↔ value.isReadable = true := by
  rw [← readable_text?_iff, ← hvalue]
  exact ⟨Silent.readable, fun h => ⟨h, hcomplete⟩⟩

/-- Of an effect without a text nothing is said if it has all that it needs. -/
theorem silent_iff_of_none {effect : Effect} (hvalue : effect.valueText? = none) :
    effect.Silent ↔ effect.lacks = [] :=
  ⟨Silent.complete, fun h => ⟨fun s hs => (Option.some_ne_none s (hs.symm.trans hvalue)).elim, h⟩⟩

/-- Linting fails on the value of an effect if this fails to be read. -/
theorem fault?_of_operand {effect : Effect} {value : Operand}
    (hvalue : effect.valueText? = value.text?) : effect.fault? = value.readFault? := by
  unfold fault?
  rw [hvalue]
  cases value <;> rfl

/-- Something is said wherever linting fails. -/
theorem Silent.fault?_eq_none {effect : Effect} (h : effect.Silent) : effect.fault? = none := by
  unfold fault?
  cases hvalue : effect.valueText? with
  | none => rfl
  | some s => exact Operand.readFault?_of_isReadable (h.readable s hvalue)

/-- Where nothing is said about an effect that can work, linting reports none that can and does not
fail on any. -/
theorem differs_of_silent {effect : Effect} (hsilent : effect.CanWork → effect.Silent)
    (hoverlooked : effect.Silent ∧ ¬ effect.CanWork ↔ effect.Overlooked)
    (hmisreported : ¬ effect.Misreported) (hunlintable : ¬ effect.Unlintable) :
    effect.DiffersAsListed where
  overlooked := hoverlooked
  misreported := ⟨fun h => (h.1.1 (hsilent h.2)).elim, fun h => (hmisreported h).elim⟩
  unlintable :=
    ⟨fun h => (h.1 (hsilent h.2).fault?_eq_none).elim, fun h => (hunlintable h).elim⟩

/-- Where nothing is said exactly if the effect can work, linting and processing agree. -/
theorem differs_of_agree {effect : Effect} (hagree : effect.Silent ↔ effect.CanWork)
    (hoverlooked : ¬ effect.Overlooked) (hmisreported : ¬ effect.Misreported)
    (hunlintable : ¬ effect.Unlintable) : effect.DiffersAsListed :=
  differs_of_silent hagree.mpr
    ⟨fun h => (h.2 (hagree.mp h.1)).elim, fun h => (hoverlooked h).elim⟩ hmisreported hunlintable

/-- An operand that is an infinity or a NaN can be read. -/
theorem isReadable_of_isNonfinite {value : Operand} (h : value.isNonfinite = true) :
    value.isReadable = true := by
  unfold Operand.isNonfinite at h
  obtain ⟨n, hn, -⟩ := (Option.any_eq_true _ _).mp h
  unfold Operand.isReadable
  rw [hn, Option.isSome_some, Bool.true_or]

/-- **Runes** need a finite operand, and an operand that is not is still read. -/
theorem differs_of_rune {effect : Effect} {value : Operand}
    (hsilent : effect.Silent ↔ value.isReadable = true)
    (hwork : effect.CanWork ↔ value.isReadable = true ∧ value.isNonfinite = false)
    (hoverlooked : effect.Overlooked ↔ value.isNonfinite = true)
    (hmisreported : ¬ effect.Misreported) (hunlintable : ¬ effect.Unlintable) :
    effect.DiffersAsListed := by
  refine differs_of_silent (fun h => hsilent.mpr (hwork.mp h).1) ?_ hmisreported hunlintable
  rw [hsilent, hwork, hoverlooked]
  refine ⟨fun ⟨hread, hnot⟩ => ?_, fun h => ⟨isReadable_of_isNonfinite h, fun hboth => ?_⟩⟩
  · by_contra hfinite
    exact hnot ⟨hread, Bool.not_eq_true _ ▸ hfinite⟩
  · rw [h] at hboth
    cases hboth.2

/-- An operand that can be read has no placeholders, so it is filled as it stands. -/
theorem fillable_of_isReadable {value : Operand} (h : value.isReadable = true) :
    value.Fillable := by
  refine ⟨{}, value, ?_, h⟩
  cases value with
  | number n => rfl
  | text s =>
    exact Option.map_eq_some_iff.mpr
      ⟨s, Placeholder.resolve_of_no_brace (some {}) (Operand.brace_not_mem h), rfl⟩

/-- What has too many digits has no placeholders either, and filling it gives no value. -/
theorem readFault?_of_fillable {value : Operand} (h : value.Fillable) :
    value.readFault? = none := by
  rw [Option.eq_none_iff_forall_ne_some]
  intro fault hfault
  obtain ⟨store, filled, hfill, hread⟩ := h
  cases value with
  | number n => cases hfault
  | text s =>
    have hbrace : '\x7b' ∉ s.toList := by
      refine Formula.brace_not_mem ?_
      rw [Operand.readFault?_text_eq_some.mp hfault]
      nofun
    obtain ⟨t, ht, rfl⟩ := Option.map_eq_some_iff.mp hfill
    rw [Placeholder.resolve_of_no_brace (some store) hbrace] at ht
    cases ht
    rw [Operand.readFault?_of_isReadable hread] at hfault
    cases hfault

/-- The word for a size cannot be read, and has no digits. -/
theorem isReadable_size (size : Size) : (Operand.text (Worded.word size)).isReadable = false ∧
    (Operand.text (Worded.word size)).readFault? = none := by
  cases size <;> decide +kernel

/-- Nothing is said about a granted item exactly if there is something to grant. -/
theorem silent_grantItem_iff (rule : GrantItemRule) :
    (grantItem rule).Silent ↔ (grantItem rule).CanWork := by
  have hnamed : (nonEmpty? rule.uuid).isSome = !rule.uuid.all (· == "") := by
    cases rule.uuid with
    | none => rfl
    | some uuid => by_cases h : uuid = "" <;> simp [nonEmpty?, h]
  rw [silent_iff_of_none rfl]
  simp only [lacks, CanWork, hnamed]
  cases rule.uuid.all (· == "") <;> cases rule.item.getD [] <;> simp

/-- Nothing is said about a choice exactly if there are options to choose from. -/
theorem silent_choiceSet_iff (rule : ChoiceSetRule) :
    (choiceSet rule).Silent ↔ (choiceSet rule).CanWork := by
  rw [silent_iff_of_none rfl]
  simp only [lacks, CanWork]
  cases rule.choices <;> simp

/-- **Property changes** are reported if they have a value only with placeholders filled. -/
theorem differsAsListed_activeEffectLike (rule : ActiveEffectRule) :
    (activeEffectLike rule).DiffersAsListed := by
  have hsilent : (activeEffectLike rule).Silent ↔ rule.value.isReadable = true :=
    silent_iff_of_operand rfl rfl
  have hfault : (activeEffectLike rule).fault? = rule.value.readFault? := fault?_of_operand rfl
  constructor
  · rw [hsilent]
    exact ⟨fun h => h.2 (fillable_of_isReadable h.1), False.elim⟩
  · rw [hsilent, hfault, Bool.not_eq_true]
    exact ⟨fun h => ⟨h.1.1, h.2⟩, fun h => ⟨⟨h.1, readFault?_of_fillable h.2⟩, h.2⟩⟩
  · rw [hfault]
    exact ⟨fun h => h.1 (readFault?_of_fillable h.2), False.elim⟩

/-- **Immunities** are reported if they have a single name that cannot be read, unless linting fails
on it. -/
theorem differsAsListed_immunity (rule : ImmunityRule) : (immunity rule).DiffersAsListed := by
  obtain ⟨type, names⟩ := rule
  cases names with
  | many names =>
    refine differs_of_agree ⟨fun _ => trivial, fun _ => (silent_iff_of_none rfl).mpr rfl⟩ id ?_ ?_
    · rintro ⟨name, hname, -⟩
      cases hname
    · rintro ⟨name, count, hname, -⟩
      cases hname
  | one name =>
    have hsilent : (immunity ⟨type, .one name⟩).Silent ↔
        (Operand.text name).isReadable = true := silent_iff_of_operand rfl rfl
    have hfault : (immunity ⟨type, .one name⟩).fault? = (Operand.text name).readFault? :=
      fault?_of_operand rfl
    constructor
    · exact ⟨fun h => h.2 trivial, False.elim⟩
    · rw [hsilent, hfault, Bool.not_eq_true]
      refine ⟨fun h => ⟨name, rfl, h.1⟩, ?_⟩
      rintro ⟨name', hname, hread⟩
      cases hname
      exact ⟨hread, trivial⟩
    · rw [hfault, Option.ne_none_iff_exists']
      constructor
      · rintro ⟨⟨fault, h⟩, -⟩
        obtain ⟨count, -, hmany⟩ :=
          Formula.parse_eq_error_iff.mp (Operand.readFault?_text_eq_some.mp h)
        exact ⟨name, count, rfl, hmany⟩
      · rintro ⟨name', count, hname, hmany⟩
        cases hname
        refine ⟨⟨.tooManyDigits count, ?_⟩, trivial⟩
        exact Operand.readFault?_text_eq_some.mpr (Formula.parse_eq_error_iff.mpr ⟨_, rfl, hmany⟩)

/-- **Changes of size** are reported if they name a size. -/
theorem differsAsListed_creatureSize (rule : CreatureSizeRule) :
    (creatureSize rule).DiffersAsListed := by
  obtain ⟨value, resizeBy, maximum, minimum⟩ := rule
  cases value with
  | none =>
    exact differs_of_agree ⟨fun _ => trivial, fun _ => (silent_iff_of_none rfl).mpr rfl⟩ id
      (fun h => h rfl) id
  | some size =>
    obtain ⟨hread, hfault⟩ := isReadable_size size
    have hreported : ¬ (creatureSize ⟨some size, resizeBy, maximum, minimum⟩).Silent := by
      intro h
      rw [h.readable (Worded.word size) rfl] at hread
      cases hread
    exact ⟨⟨fun h => (hreported h.1).elim, False.elim⟩,
      ⟨fun _ => nofun, fun _ => ⟨⟨hreported, hfault⟩, trivial⟩⟩,
      ⟨fun h => h.1 hfault, False.elim⟩⟩

/-- **Where linting and processing differ**, for all kinds but adjustments. -/
theorem differsAsListed (effect : Effect) (other : effect.kind ≠ .adjustModifier) :
    effect.DiffersAsListed := by
  have operand {effect : Effect} {value : Operand} (hvalue : effect.valueText? = value.text?)
      (hcomplete : effect.lacks = []) (hwork : effect.CanWork ↔ value.isReadable = true)
      (hoverlooked : ¬ effect.Overlooked) (hmisreported : ¬ effect.Misreported)
      (hunlintable : ¬ effect.Unlintable) : effect.DiffersAsListed :=
    differs_of_agree ((silent_iff_of_operand hvalue hcomplete).trans hwork.symm) hoverlooked
      hmisreported hunlintable
  have always {effect : Effect} (hvalue : effect.valueText? = none) (hcomplete : effect.lacks = [])
      (hwork : effect.CanWork) (hoverlooked : ¬ effect.Overlooked)
      (hmisreported : ¬ effect.Misreported) (hunlintable : ¬ effect.Unlintable) :
      effect.DiffersAsListed :=
    differs_of_agree ⟨fun _ => hwork, fun _ => (silent_iff_of_none hvalue).mpr hcomplete⟩
      hoverlooked hmisreported hunlintable
  cases effect with
  | flatModifier rule => exact operand rfl rfl .rfl id id id
  | adjustModifier rule => exact absurd rfl other
  | damageDice rule => exact always rfl rfl trivial id id id
  | baseSpeed rule => exact operand rfl rfl .rfl id id id
  | sense rule => exact always rfl rfl trivial id id id
  | grantItem rule => exact differs_of_agree (silent_grantItem_iff rule) id id id
  | choiceSet rule => exact differs_of_agree (silent_choiceSet_iff rule) id id id
  | activeEffectLike rule => exact differsAsListed_activeEffectLike rule
  | rollOption rule => exact always rfl rfl trivial id id id
  | toggleProperty rule => exact always rfl rfl trivial id id id
  | weaponPotency rule => exact differs_of_rune (silent_iff_of_operand rfl rfl) .rfl .rfl id id
  | striking rule => exact differs_of_rune (silent_iff_of_operand rfl rfl) .rfl .rfl id id
  | tempHP rule => exact operand rfl rfl .rfl id id id
  | fastHealing rule => exact operand rfl rfl .rfl id id id
  | resistance rule => exact operand rfl rfl .rfl id id id
  | weakness rule => exact operand rfl rfl .rfl id id id
  | immunity rule => exact differsAsListed_immunity rule
  | creatureSize rule => exact differsAsListed_creatureSize rule
  | actorTraits rule => exact always rfl rfl trivial id id id

end Effect

/-! ## Payloads -/

namespace ParsedElement

/-- **A rule element can take effect**: at some level and with some choices the pass over it alone
gives an entry. -/
def CanTakeEffect (source : String) (e : ParsedElement) : Prop :=
  ∃ level store done, Processing.run { source, level, choices := some store } [e] = .ok done ∧
    0 < done.aggregate.total

/-- Rule elements that cannot take effect and about which nothing is said. -/
def Overlooked : ParsedElement → Prop
  | .known e => e.effect.Overlooked
  | .unrecognized _ => False

/-- Rule elements that can take effect and are reported. -/
def Misreported : ParsedElement → Prop
  | .known e => e.effect.Misreported
  | .unrecognized _ => False

/-- Rule elements that can take effect and on which linting fails. -/
def Unlintable : ParsedElement → Prop
  | .known e => e.effect.Unlintable
  | .unrecognized _ => False

/-- A pass over a single rule element other than an adjustment gives an entry if that does. -/
theorem exists_run_iff {p : Processing} {e : ParsedElement} (other : e.adjustment? = none) :
    (∃ done, p.run [e] = .ok done ∧ 0 < done.aggregate.total) ↔ ∃ x, e.result? p = some x := by
  have hpool : ∃ ms, p.pool [] [e] = .ok ms := by
    refine ⟨[] ++ e.pooled p, Processing.pool_cons_eq_ok.mpr ⟨[], ?_, rfl⟩⟩
    unfold readjust
    rw [other]
  obtain ⟨done, hdone⟩ : ∃ done, p.run [e] = .ok done := Processing.runFrom_ok_iff.mpr hpool
  obtain ⟨next, hstep, hnil⟩ := Faulting.foldlM_cons_eq_ok.mp hdone
  cases hnil
  obtain ⟨c, ms, hc, hms, hnext⟩ := Pass.step_cases hstep
  unfold readjust at hms
  rw [other] at hms
  cases hms
  have htotal : done.aggregate.total = c.toAggregate.total := by
    rw [hnext, Aggregate.total_append]
    exact Nat.zero_add _
  rw [← hc.result?_eq]
  constructor
  · rintro ⟨done', hdone', hpositive⟩
    obtain rfl := Except.ok.inj (hdone.symm.trans hdone')
    rw [htotal] at hpositive
    cases c with
    | remark text => cases hpositive
    | entry x => exact ⟨x, rfl⟩
  · rintro ⟨x, hx⟩
    refine ⟨done, hdone, ?_⟩
    rw [htotal]
    cases c with
    | remark text => cases hx
    | entry y =>
      cases y <;> simp [Contribution.toAggregate, Entry.toAggregate, Aggregate.insert,
        Aggregate.empty, Aggregate.total]

/-- **A rule element that is understood can take effect** exactly if its effect can work. -/
theorem canTakeEffect_iff (source : String) {e : RuleElement} (other : e.kind ≠ .adjustModifier) :
    (known e).CanTakeEffect source ↔ e.effect.CanWork := by
  have hnone : (known e).adjustment? = none := by
    obtain ⟨label, predicate, effect⟩ := e
    cases effect <;> first | rfl | exact absurd rfl other
  rw [← RuleElement.exists_process_iff source]
  refine exists_congr fun level => exists_congr fun store => ?_
  rw [exists_run_iff hnone]
  exact exists_congr fun x => Attempt.result?_eq_some

/-- A payload that is not understood can never take effect. -/
theorem not_canTakeEffect (source : String) (payload : Unrecognized) :
    ¬ (unrecognized payload).CanTakeEffect source := by
  rintro ⟨level, store, h⟩
  obtain ⟨x, hx⟩ := (exists_run_iff rfl).mp h
  cases hx

/-- **A rule element with too many digits**: its value is a text in the form of a formula with more
digits than are read. -/
def HasLongValue : ParsedElement → Prop
  | .known e => ∃ s count, e.effect.valueText? = some s ∧
      Formula.Oversized count (Text.strip s).toList
  | .unrecognized _ => False

/-- **When linting comes to its end**: on all rule elements but those with too many digits. -/
theorem lint_fault_eq_none_iff (e : ParsedElement) : e.lint.fault = none ↔ ¬ e.HasLongValue := by
  cases e with
  | unrecognized payload => exact iff_of_true rfl id
  | known e =>
    have hfault : (known e).lint.fault = e.effect.fault? := e.lint_fault
    rw [hfault, Option.eq_none_iff_forall_ne_some]
    unfold Effect.fault? HasLongValue
    simp only [ne_eq, Option.bind_eq_some_iff, Operand.readFault?_text_eq_some,
      Formula.parse_eq_error_iff]
    constructor
    · rintro h ⟨s, count, hvalue, hmany⟩
      exact h _ ⟨s, hvalue, count, rfl, hmany⟩
    · rintro h fault ⟨s, hvalue, count, -, hmany⟩
      exact h ⟨s, count, hvalue, hmany⟩

/-- **Where linting and processing differ.** Take any rule other than an adjustment. Nothing is said
about it though it can never take effect exactly if it is a rune whose operand is an infinity or a
NaN. It is reported though it can take effect exactly if it names a size, or is an immunity with a
single name that cannot be read as a value, or a property change whose value can be read only with
its placeholders filled. And linting fails on it though it can take effect exactly if it is an
immunity whose single name has the form of a formula with too many digits. -/
theorem lint_differs_iff (source : String) (fields : List (String × Data))
    (other : (ofFields fields).kind? ≠ some .adjustModifier) :
    (((ofFields fields).lint.fault = none ∧ (ofFields fields).lint.problems = []) ∧
        ¬ (ofFields fields).CanTakeEffect source ↔ (ofFields fields).Overlooked) ∧
      (((ofFields fields).lint.fault = none ∧ (ofFields fields).lint.problems ≠ []) ∧
        (ofFields fields).CanTakeEffect source ↔ (ofFields fields).Misreported) ∧
      ((ofFields fields).lint.fault ≠ none ∧ (ofFields fields).CanTakeEffect source ↔
        (ofFields fields).Unlintable) := by
  cases hparsed : ofFields fields with
  | unrecognized payload =>
    exact ⟨⟨fun h => (nomatch h.1.2), False.elim⟩,
      ⟨fun h => not_canTakeEffect source payload h.2, False.elim⟩,
      ⟨fun h => h.1 rfl, False.elim⟩⟩
  | known e =>
    rw [hparsed] at other
    have hkind : e.kind ≠ .adjustModifier := fun h => other (congrArg some h)
    obtain ⟨hoverlooked, hmisreported, hunlintable⟩ := e.effect.differsAsListed hkind
    have hfault : (known e).lint.fault = e.effect.fault? := e.lint_fault
    have hsilent : (known e).lint.fault = none ∧ (known e).lint.problems = [] ↔ e.effect.Silent :=
      e.lint_isSilent_iff
    have hreported : (known e).lint.fault = none ∧ (known e).lint.problems ≠ [] ↔
        ¬ e.effect.Silent ∧ e.effect.fault? = none := by
      rw [← hsilent, ← hfault]
      tauto
    rw [canTakeEffect_iff source hkind, hsilent, hreported, hfault]
    exact ⟨hoverlooked, hmisreported, hunlintable⟩

/-- A change to a named size is reported, and takes effect. -/
theorem lint_not_exact_for_size :
    ¬ ∀ (source : String) (fields : List (String × Data)),
      (ofFields fields).kind? ≠ some .adjustModifier →
        ((ofFields fields).lint.fault = none ∧ (ofFields fields).lint.problems = [] ↔
          (ofFields fields).CanTakeEffect source) := by
  intro hclaim
  let large : List (String × Data) := [("key", .text "CreatureSize"), ("value", .text "large")]
  have hparsed : ofFields large =
      .known ⟨none, none, .creatureSize ⟨some .large, none, none, none⟩⟩ := rfl
  have hexact := hclaim "Test" large (by rw [hparsed]; decide)
  rw [hparsed] at hexact
  have hsilent := hexact.mpr ⟨1, {}, _, rfl, by decide⟩
  revert hsilent
  decide +kernel

/-- A change to a named size is one of the rule elements that are reported for nothing, a rune of
infinite potency one of those that are overlooked, and an immunity to a divisor of 4301 digits one
of those on which linting fails. -/
theorem lint_differs_iff_of_size_and_rune :
    let large : List (String × Data) := [("key", .text "CreatureSize"), ("value", .text "large")]
    let rune : List (String × Data) :=
      [("key", .text "WeaponPotency"), ("value", .number (.real (.infinite false)))]
    let immune : List (String × Data) :=
      [("key", .text "Immunity"), ("type", .text "damage"), ("value", .text Operand.longQuotient)]
    ((ofFields large).lint.problems ≠ [] ∧ (ofFields large).CanTakeEffect "Test") ∧
      ((ofFields rune).lint.problems = [] ∧ ¬ (ofFields rune).CanTakeEffect "Test") ∧
      (ofFields immune).lint.fault ≠ none ∧ (ofFields immune).CanTakeEffect "Test" := by
  intro large rune immune
  have hlarge : ofFields large =
      .known ⟨none, none, .creatureSize ⟨some .large, none, none, none⟩⟩ := rfl
  have hrune : ofFields rune =
      .known ⟨none, none, .weaponPotency ⟨.number (.real (.infinite false)), none⟩⟩ := rfl
  have himmune : ofFields immune =
      .known ⟨none, none, .immunity ⟨.damage, .one Operand.longQuotient⟩⟩ := rfl
  obtain ⟨-, hreported, -⟩ := lint_differs_iff "Test" large (by rw [hlarge]; decide)
  obtain ⟨hoverlooked, -⟩ := lint_differs_iff "Test" rune (by rw [hrune]; decide)
  obtain ⟨-, -, hfailed⟩ := lint_differs_iff "Test" immune (by rw [himmune]; decide)
  obtain ⟨⟨-, hproblems⟩, hlargeEffect⟩ := hreported.mpr (by rw [hlarge]; nofun)
  obtain ⟨⟨-, hnothing⟩, hnoEffect⟩ := hoverlooked.mpr (by rw [hrune]; rfl)
  have hlong : (ofFields immune).Unlintable := by
    rw [himmune]
    exact ⟨_, _, rfl, Operand.oversized_longQuotient⟩
  exact ⟨⟨hproblems, hlargeEffect⟩, ⟨hnothing, hnoEffect⟩, hfailed.mpr hlong⟩

end ParsedElement

end RuleElements
