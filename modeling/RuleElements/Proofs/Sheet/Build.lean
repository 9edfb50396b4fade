import RuleElements.Character.Sheet
import RuleElements.Proofs.Aggregate.Merge
import RuleElements.Proofs.Faulting
import RuleElements.Proofs.Predicate.Agreement

/-!
# How a sheet is built

A sheet is made of what the sources of a character give, merged, and of what the character brings.
What the sources give is looked at in four contexts: with the base traits and with the final ones,
and with the collected options left out and put in. Aggregates of which the same applies in these
contexts give the same sheet, but for the remarks.

Main definitions:
* `CharacterState.gathered`: what the sources of a character give, merged.
* `CharacterState.ownOptions`: the options that a character brings of itself.
* `CharacterState.contexts`: the contexts in which an aggregate is looked at.

Results:
* `Sheet.build_eq_ok`, `Sheet.ofAggregate_eq_ok`: what a sheet is, if it can be built.
* `CharacterState.mem_options`: the options in force.
* `Sheet.ofAggregate_congr`: a sheet depends on what applies only.
-/

namespace RuleElements

namespace CharacterState

/-- What the sources of a character give, merged. -/
def gathered (state : CharacterState) (sources : List RuleSource) :
    Except ArithmeticFault Aggregate :=
  (RuleSource.processAll sources state.level (some state.choices)).map fun passes =>
    Aggregate.merge (passes.map (·.aggregate))

/-- The options that a character brings of itself: its roll options, and the conditions that it
has. -/
def ownOptions (state : CharacterState) : List String :=
  state.rollOptions ++ (state.conditions.filter (0 < ·.2)).map (Text.lower ·.1)

/-- The options in force are those of the character and the further ones. -/
theorem mem_options {state : CharacterState} {further : List String} {o : String} :
    o ∈ state.options further ↔ o ∈ state.ownOptions ∨ o ∈ further := by
  unfold options ownOptions
  rw [List.mem_eraseDups]
  simp only [List.mem_append]
  exact or_right_comm

/-- The contexts in which what the sources of a character give is looked at. -/
def contexts (state : CharacterState) (a : Aggregate) : List Context :=
  [state.context state.traits [], state.collectedContext a state.traits,
    state.context (state.finalTraits a) [], state.finalContext a]

/-- **Aggregates of which the same applies** wherever the first one is looked at. -/
def LooksSame (state : CharacterState) (a b : Aggregate) : Prop :=
  ∀ ctx ∈ state.contexts a, ∀ k,
    (a.bucket k).filter (Gated.applies ctx) = (b.bucket k).filter (Gated.applies ctx)

/-- Aggregates that put the same options in force give the same context with them. -/
theorem collectedContext_congr {state : CharacterState} {a b : Aggregate} {traits : List String}
    (h : ∀ k, (a.bucket k).filter (Gated.applies (state.context traits [])) =
      (b.bucket k).filter (Gated.applies (state.context traits []))) :
    state.collectedContext a traits = state.collectedContext b traits := by
  unfold collectedContext
  rw [Aggregate.activeOptions_congr h]

namespace LooksSame

variable {state : CharacterState} {a b : Aggregate}

theorem finalTraits_eq (h : state.LooksSame a b) : state.finalTraits a = state.finalTraits b := by
  have hbase := collectedContext_congr (h _ List.mem_cons_self)
  have hchanges : (a.filter (state.collectedContext a state.traits)).traitChanges =
      (b.filter (state.collectedContext a state.traits)).traitChanges := by
    rw [Aggregate.filter_congr (h (state.collectedContext a state.traits) (by simp [contexts]))]
  unfold finalTraits
  rw [← hbase]
  exact congrArg (fun changes : List TraitChange =>
    sortedTexts (changes.foldl Trait.change (state.traits.map Text.lower))) hchanges

theorem finalContext_eq (h : state.LooksSame a b) :
    state.finalContext a = state.finalContext b := by
  unfold finalContext
  rw [← h.finalTraits_eq]
  exact collectedContext_congr (h (state.context (state.finalTraits a) []) (by simp [contexts]))

/-- What applies in the end is the same, but for the remarks. -/
theorem activeEntries_eq (h : state.LooksSame a b) :
    state.activeEntries a (state.finalContext a) =
      { state.activeEntries b (state.finalContext b) with logs := a.logs } := by
  have hfilter := Aggregate.filter_congr (h (state.finalContext a) (by simp [contexts]))
  unfold activeEntries
  rw [← h.finalContext_eq, hfilter]

end LooksSame

end CharacterState

namespace Sheet

variable {state : CharacterState} {sources : List RuleSource} {merged a b : Aggregate}
  {sheet : Sheet}

/-- **A sheet is built** from what the sources give, merged, if that can be done. -/
theorem build_eq_ok : (∃ log, build state sources = .ok (sheet, log)) ↔
    ∃ merged, state.gathered sources = .ok merged ∧ ofAggregate state merged = .ok sheet := by
  unfold build CharacterState.gathered
  constructor
  · rintro ⟨log, h⟩
    obtain ⟨passes, hpasses, h⟩ := Faulting.bind_eq_ok.mp h
    obtain ⟨built, hbuilt, h⟩ := Faulting.bind_eq_ok.mp h
    cases h
    exact ⟨_, Faulting.map_eq_ok.mpr ⟨passes, hpasses, rfl⟩, hbuilt⟩
  · rintro ⟨merged, hmerged, hsheet⟩
    obtain ⟨passes, hpasses, rfl⟩ := Faulting.map_eq_ok.mp hmerged
    exact ⟨_, Faulting.bind_eq_ok.mpr
      ⟨passes, hpasses, Faulting.bind_eq_ok.mpr ⟨sheet, hsheet, rfl⟩⟩⟩

/-- **A sheet is what applies in the final context**, if its speeds and its recovery can be summed
up. -/
theorem ofAggregate_eq_ok : ofAggregate state merged = .ok sheet ↔
    ∃ speeds healing,
      (raisedSpeeds state.baseSpeeds
        (state.activeEntries merged (state.finalContext merged)).speeds).mapM
          (modifiedSpeed (state.activeEntries merged (state.finalContext merged))
            (state.finalContext merged)) = .ok speeds ∧
      FastHealing.total (state.activeEntries merged (state.finalContext merged)).fastHealing []
        none = .ok healing ∧
      sheet = ofActive state (state.finalTraits merged) (state.finalContext merged)
        (state.activeEntries merged (state.finalContext merged)) speeds healing merged.logs := by
  unfold ofAggregate
  constructor
  · intro h
    obtain ⟨speeds, hspeeds, h⟩ := Faulting.bind_eq_ok.mp h
    obtain ⟨healing, hhealing, h⟩ := Faulting.bind_eq_ok.mp h
    cases h
    exact ⟨speeds, healing, hspeeds, hhealing, rfl⟩
  · rintro ⟨speeds, healing, hspeeds, hhealing, rfl⟩
    exact Faulting.bind_eq_ok.mpr
      ⟨speeds, hspeeds, Faulting.bind_eq_ok.mpr ⟨healing, hhealing, rfl⟩⟩

/-- The sheet with other remarks. -/
def withLogs (sheet : Sheet) (logs : List String) : Sheet :=
  { sheet with logs, active := { sheet.active with logs } }

/-- **A sheet depends on what applies only**, but for the remarks. -/
theorem ofAggregate_congr (h : state.LooksSame a b) (hsheet : ofAggregate state a = .ok sheet) :
    ofAggregate state b = .ok (sheet.withLogs b.logs) := by
  obtain ⟨speeds, healing, hspeeds, hhealing, rfl⟩ := ofAggregate_eq_ok.mp hsheet
  refine ofAggregate_eq_ok.mpr ⟨speeds, healing, ?_, ?_, ?_⟩
  · rw [h.activeEntries_eq, h.finalContext_eq] at hspeeds
    exact hspeeds
  · rw [h.activeEntries_eq] at hhealing
    exact hhealing
  · rw [h.activeEntries_eq, h.finalContext_eq, h.finalTraits_eq]
    rfl

end Sheet

end RuleElements
