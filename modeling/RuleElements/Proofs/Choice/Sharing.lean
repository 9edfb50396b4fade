import RuleElements.Proofs.Aggregate.Merge
import RuleElements.Proofs.Choice.Record
import RuleElements.Source

/-!
# Choices that share a selection

A choice without a flag of its own is stored under the slug of its source, so all such choices of a
source share one selection, and so do those of sources whose names have one slug. Choices whose
sources have different slugs do not: recording one leaves the other as it was. This is said for the
prompts of several sources that are processed with one store and merged.

Main definitions:
* `Label.slug`: a name in lowercase, with a dash for each stretch of blanks.
* `AskedPrompt`: a prompt with the source and the rule element that ask it.
* `ParsedElement.IsUnflagged`: a choice without a flag of its own.

Results:
* `RuleSource.choicePrompts_of_processAll`: the prompts of several sources are those that their rule
  elements ask.
* `RuleSource.processAll_again`: what is asked once other selections are made.
* `RuleSource.seen_of_unflagged`: a choice without a flag, once one is recorded.
* `RuleSource.unflagged_kept_iff`: when recording a choice leaves another one as it was.
-/

namespace RuleElements

/-! ## Flags -/

namespace Label

/-- A name in lowercase, with a dash for each stretch of blanks. -/
def slug (name : String) : String :=
  String.ofList (Text.collapseBlanks '-' (Text.lower name).toList)

/-- The choices of two sources share a flag exactly if the names of the sources have one slug. -/
theorem choiceFlag_eq_iff {m n : String} : choiceFlag m = choiceFlag n ↔ slug m = slug n := by
  unfold choiceFlag slug
  exact String.append_right_inj _

end Label

namespace ParsedElement

/-- **A choice without a flag of its own**: it has none, or the empty text. -/
def IsUnflagged (e : ParsedElement) : Prop :=
  ∃ label predicate rule, e = .known ⟨label, predicate, .choiceSet rule⟩ ∧
    (rule.flag = none ∨ rule.flag = some "")

variable {e : ParsedElement} {prompt : ChoicePrompt}

/-- The prompt of a choice without a flag has the flag of the source. -/
theorem flag_of_isUnflagged {p : Processing} (he : e.IsUnflagged) (h : e.prompt? p = some prompt) :
    prompt.flag = Label.choiceFlag p.source := by
  obtain ⟨label, predicate, rule, rfl, hflag⟩ := he
  have hnone : nonEmpty? rule.flag = none := by
    rcases hflag with h | h <;> rw [h] <;> rfl
  simp only [prompt?, result?, RuleElement.process, Processing.choiceSet, hnone] at h
  split at h
  · cases h
  · cases h
    rfl

/-- A prompt holds what the store that it was made with has for it. -/
theorem seen_of_prompt? {source : String} {level : Int} {store : ChoiceStore}
    (h : e.prompt? ⟨source, level, some store⟩ = some prompt) : prompt.seen store = prompt := by
  have hseen : e.prompt? ⟨source, level, some store⟩ =
      (e.prompt? ⟨source, level, some store⟩).map (·.seen store) := e.prompt?_eq
  rw [h, Option.map_some] at hseen
  exact (Option.some.inj hseen).symm

end ParsedElement

/-! ## What several sources ask -/

/-- A prompt with the name of the source and the rule element that ask it. -/
structure AskedPrompt where
  source : String
  element : ParsedElement
  prompt : ChoicePrompt

/-- A selection that is recorded is stored under the flag of its prompt. -/
theorem ChoicePrompt.store_of_record {store after : ChoiceStore} {prompt answered : ChoicePrompt}
    {selection : Selection} (h : record store prompt selection = .ok (after, answered)) :
    after = store.setSelection prompt.flag selection := by
  unfold record at h
  split at h
  · cases h
    rfl
  · cases h

/-- Another selection leaves a prompt as it was only if it is the one that the prompt has. -/
theorem ChoicePrompt.withSelection_keeps_iff {prompt : ChoicePrompt} {selection : Selection} :
    (prompt.withSelection selection).selection = prompt.selection ∧
      (prompt.withSelection selection).isComplete = prompt.isComplete ↔
      prompt.selection = some selection := by
  constructor
  · exact fun h => h.1.symm
  · intro h
    refine ⟨h.symm, ?_⟩
    unfold withSelection isComplete selectedValues
    rw [h]

namespace RuleSource

variable {sources : List RuleSource} {level : Int} {store : ChoiceStore} {passes : List Pass}

/-- What the rule elements of several sources ask, in order. -/
def asked (sources : List RuleSource) (level : Int) (store : ChoiceStore) : List AskedPrompt :=
  sources.flatMap fun s => s.elements.filterMap fun e =>
    (e.prompt? ⟨s.name, level, some store⟩).map (⟨s.name, e, ·⟩)

theorem prompt?_of_mem_asked {a : AskedPrompt} (h : a ∈ asked sources level store) :
    a.element.prompt? ⟨a.source, level, some store⟩ = some a.prompt := by
  obtain ⟨s, -, hs⟩ := List.mem_flatMap.mp h
  obtain ⟨e, -, he⟩ := List.mem_filterMap.mp hs
  obtain ⟨prompt, hprompt, rfl⟩ := Option.map_eq_some_iff.mp he
  exact hprompt

theorem choicePrompts_merge_cons (done : Pass) (passes : List Pass) :
    (Pass.merge (done :: passes)).aggregate.choicePrompts =
      done.aggregate.choicePrompts ++ (Pass.merge passes).aggregate.choicePrompts := by
  unfold Pass.merge
  rw [List.map_cons, Aggregate.merge_cons]
  rfl

/-- **The prompts of several sources** are those that their rule elements ask. -/
theorem choicePrompts_of_processAll : ∀ {sources : List RuleSource} {passes : List Pass},
    processAll sources level (some store) = .ok passes →
      (Pass.merge passes).aggregate.choicePrompts = (asked sources level store).map (·.prompt)
  | [], _, h => by
    cases h
    rfl
  | s :: sources, _, h => by
    obtain ⟨done, passes, hdone, hpasses, rfl⟩ := Faulting.mapM_cons_eq_ok.mp h
    rw [choicePrompts_merge_cons, choicePrompts_of_processAll hpasses,
      Processing.choicePrompts_of_run hdone]
    unfold asked
    rw [List.flatMap_cons, List.map_append, List.map_filterMap]
    congr 1
    simp [Function.comp_def]

/-- **What is asked once other selections are made**: the same prompts, each with the selection that
the store now has for it. -/
theorem processAll_again {old new : ChoiceStore} (htoggles : old.toggles = new.toggles) :
    ∀ {sources : List RuleSource} {passes : List Pass},
      processAll sources level (some old) = .ok passes →
      ∃ again, processAll sources level (some new) = .ok again ∧
        (Pass.merge again).aggregate.choicePrompts =
          (Pass.merge passes).aggregate.choicePrompts.map (·.seen new)
  | [], _, h => by
    cases h
    exact ⟨[], rfl, rfl⟩
  | s :: sources, _, h => by
    obtain ⟨done, passes, hdone, hpasses, rfl⟩ := Faulting.mapM_cons_eq_ok.mp h
    obtain ⟨redone, hredone, hprompts⟩ := Processing.run_again htoggles hdone
    obtain ⟨again, hagain, hrest⟩ := processAll_again htoggles hpasses
    refine ⟨redone :: again, Faulting.mapM_cons_eq_ok.mpr ⟨redone, again, hredone, hagain, rfl⟩, ?_⟩
    rw [choicePrompts_merge_cons, choicePrompts_merge_cons, List.map_append, hprompts, hrest]

/-! ## Recording a choice -/

variable {a b : AskedPrompt} {selection : Selection}

/-- **A choice without a flag, once one is recorded**: it has the selection if the sources of both
have one slug, and is as it was otherwise. -/
theorem seen_of_unflagged (ha : a ∈ asked sources level store)
    (hb : b ∈ asked sources level store) (hunflagged : a.element.IsUnflagged)
    (hunflagged' : b.element.IsUnflagged) :
    b.prompt.seen (store.setSelection a.prompt.flag selection) =
      if Label.slug a.source = Label.slug b.source then b.prompt.withSelection selection
      else b.prompt := by
  have hprompt := prompt?_of_mem_asked hb
  have hflag := ParsedElement.flag_of_isUnflagged hunflagged (prompt?_of_mem_asked ha)
  have hflag' := ParsedElement.flag_of_isUnflagged hunflagged' hprompt
  dsimp only at hflag hflag'
  split
  · next hslug =>
    have hsame : a.prompt.flag = b.prompt.flag := by
      rw [hflag, hflag', Label.choiceFlag_eq_iff.mpr hslug]
    rw [hsame, ChoicePrompt.seen_setSelection]
  · next hslug =>
    have hother : b.prompt.flag ≠ a.prompt.flag := by
      rw [hflag, hflag']
      exact fun heq => hslug (Label.choiceFlag_eq_iff.mp heq.symm)
    have hseen := ParsedElement.seen_of_prompt? hprompt
    unfold ChoicePrompt.seen at hseen ⊢
    rw [store.getSelection_setSelection_of_ne hother, hseen]

/-- The prompt of a choice without a flag, when all is processed again after one is recorded. -/
theorem choicePrompts_again_of_unflagged {j : Nat}
    (h : processAll sources level (some store) = .ok passes) (ha : a ∈ asked sources level store)
    (hb : (asked sources level store)[j]? = some b) (hunflagged : a.element.IsUnflagged)
    (hunflagged' : b.element.IsUnflagged) (selection : Selection) :
    ∃ again,
      processAll sources level (some (store.setSelection a.prompt.flag selection)) = .ok again ∧
      (Pass.merge again).aggregate.choicePrompts[j]? =
        some (if Label.slug a.source = Label.slug b.source then b.prompt.withSelection selection
          else b.prompt) := by
  have htoggles : store.toggles = (store.setSelection a.prompt.flag selection).toggles := rfl
  obtain ⟨again, hagain, hseen⟩ := processAll_again htoggles h
  refine ⟨again, hagain, ?_⟩
  rw [hseen, choicePrompts_of_processAll h, List.getElem?_map, List.getElem?_map, hb,
    Option.map_some, Option.map_some,
    seen_of_unflagged ha (List.mem_of_getElem? hb) hunflagged hunflagged']

/-- **When recording a choice leaves another one as it was.** Several sources are processed with one
store and merged; their prompts are those that their rule elements ask. A selection is recorded for
a choice without a flag, and all is processed again. Another choice without a flag is as it was if
the names of the two sources have different slugs. If they have one slug, which the choices of one
source always have, it holds the selection that was recorded; so what it has selected, and whether
it is complete, stay the same only if it held this selection before. -/
theorem unflagged_kept_iff {i j : Nat} {after : ChoiceStore} {answered : ChoicePrompt}
    (h : processAll sources level (some store) = .ok passes)
    (ha : (asked sources level store)[i]? = some a) (hb : (asked sources level store)[j]? = some b)
    (hunflagged : a.element.IsUnflagged) (hunflagged' : b.element.IsUnflagged)
    (hrecord : ChoicePrompt.record store a.prompt selection = .ok (after, answered)) :
    (Pass.merge passes).aggregate.choicePrompts = (asked sources level store).map (·.prompt) ∧
    ∃ again q, processAll sources level (some after) = .ok again ∧
      (Pass.merge again).aggregate.choicePrompts[j]? = some q ∧
      (Label.slug a.source ≠ Label.slug b.source → q = b.prompt) ∧
      (Label.slug a.source = Label.slug b.source → q = b.prompt.withSelection selection) ∧
      (q.selection = b.prompt.selection ∧ q.isComplete = b.prompt.isComplete ↔
        Label.slug a.source ≠ Label.slug b.source ∨ b.prompt.selection = some selection) := by
  obtain rfl : after = store.setSelection a.prompt.flag selection :=
    ChoicePrompt.store_of_record hrecord
  obtain ⟨again, hagain, hq⟩ := choicePrompts_again_of_unflagged h (List.mem_of_getElem? ha) hb
    hunflagged hunflagged' selection
  refine ⟨choicePrompts_of_processAll h, again, _, hagain, hq, fun hne => if_neg hne,
    fun heq => if_pos heq, ?_⟩
  by_cases hslug : Label.slug a.source = Label.slug b.source
  · rw [if_pos hslug, ChoicePrompt.withSelection_keeps_iff]
    exact (or_iff_right (not_not_intro hslug)).symm
  · rw [if_neg hslug]
    exact iff_of_true ⟨rfl, rfl⟩ (.inl hslug)

/-- A feat with a choice of one value, without a flag. -/
def choosing (name value : String) : RuleSource where
  id := name
  name
  rules := [[("key", .text "ChoiceSet"),
    ("choices", .list [.object [("value", .text value), ("label", .text value)]])]]

/-- What such a feat asks. -/
def askedBy (name value : String) : AskedPrompt where
  source := name
  element := .known ⟨none, none, .choiceSet
    ⟨none, none, [⟨value, value, none, none⟩], none, none, none⟩⟩
  prompt :=
    { flag := Label.choiceFlag name
      prompt := "Make a selection"
      choices := [⟨value, value, none, none⟩]
      source := name
      selectionCount := 1
      adjustName := false
      selection := none
      predicate := none }

theorem elements_choosing (name value : String) :
    (choosing name value).elements = [(askedBy name value).element] := rfl

theorem asked_choosing (name name' value value' : String) :
    asked [choosing name value, choosing name' value'] 1 {} =
      [askedBy name value, askedBy name' value'] := by
  unfold asked
  rw [List.flatMap_cons, List.flatMap_cons, List.flatMap_nil, elements_choosing, elements_choosing]
  rfl

theorem isUnflagged_askedBy (name value : String) : (askedBy name value).element.IsUnflagged :=
  ⟨_, _, _, rfl, .inl rfl⟩

theorem record_askedBy (name value : String) :
    ChoicePrompt.record {} (askedBy name value).prompt (.one value) =
      .ok (({} : ChoiceStore).setSelection (Label.choiceFlag name) (.one value),
        (askedBy name value).prompt.withSelection (.one value)) := by
  have haccepts : (askedBy name value).prompt.accepts (.one value) = true := by
    simp [ChoicePrompt.accepts, askedBy, Names.toList, ChoicePrompt.allDifferent]
  exact if_pos haccepts

/-- Two feats with different slugs: the second choice is open after the first one is recorded. -/
theorem unflagged_kept_of_assurance :
    let sources := [choosing "Canny Acumen" "will", choosing "Assurance" "stealth"]
    let flag := Label.choiceFlag "Canny Acumen"
    ∃ passes again q, processAll sources 1 (some {}) = .ok passes ∧
      processAll sources 1 (some (({} : ChoiceStore).setSelection flag (.one "will"))) = .ok again ∧
      (Pass.merge again).aggregate.choicePrompts[1]? = some q ∧ q.selection = none ∧
      q.isComplete = false := by
  intro sources flag
  have hrun : (processAll sources 1 (some {})).isOk = true := by decide +kernel
  obtain ⟨passes, hpasses⟩ := Faulting.exists_ok_of_isOk hrun
  have hasked := asked_choosing "Canny Acumen" "Assurance" "will" "stealth"
  have hfirst : (asked sources 1 {})[0]? = some (askedBy "Canny Acumen" "will") := by
    rw [hasked]
    rfl
  have hsecond : (asked sources 1 {})[1]? = some (askedBy "Assurance" "stealth") := by
    rw [hasked]
    rfl
  obtain ⟨-, again, q, hagain, hq, hkept, -⟩ := unflagged_kept_iff hpasses hfirst hsecond
    (isUnflagged_askedBy _ _) (isUnflagged_askedBy _ _) (record_askedBy "Canny Acumen" "will")
  obtain rfl := hkept (by decide +kernel)
  exact ⟨passes, again, _, hpasses, hagain, hq, rfl, rfl⟩

/-- Two feats whose names differ in case and in blanks only: the second choice takes over what is
recorded for the first one. -/
theorem unflagged_not_kept_of_blanks :
    ¬ ∀ {sources : List RuleSource} {level : Int} {store after : ChoiceStore} {passes : List Pass}
      {i j : Nat} {a b : AskedPrompt} {selection : Selection} {answered : ChoicePrompt},
      (sources.map (·.name)).Nodup →
      processAll sources level (some store) = .ok passes → i ≠ j →
      (asked sources level store)[i]? = some a → (asked sources level store)[j]? = some b →
      a.element.IsUnflagged → b.element.IsUnflagged →
      ChoicePrompt.record store a.prompt selection = .ok (after, answered) →
      ∃ again q, processAll sources level (some after) = .ok again ∧
        (Pass.merge again).aggregate.choicePrompts[j]? = some q ∧
        q.selection = b.prompt.selection ∧ q.isComplete = b.prompt.isComplete := by
  intro independent
  let sources := [choosing "Canny Acumen" "will", choosing "canny  acumen" "stealth"]
  have hrun : (processAll sources 1 (some {})).isOk = true := by decide +kernel
  obtain ⟨passes, hpasses⟩ := Faulting.exists_ok_of_isOk hrun
  have hasked := asked_choosing "Canny Acumen" "canny  acumen" "will" "stealth"
  have hfirst : (asked sources 1 {})[0]? = some (askedBy "Canny Acumen" "will") := by
    rw [hasked]
    rfl
  have hsecond : (asked sources 1 {})[1]? = some (askedBy "canny  acumen" "stealth") := by
    rw [hasked]
    rfl
  obtain ⟨again, q, hagain, hq, hselection, -⟩ := independent (by decide) hpasses Nat.zero_ne_one
    hfirst hsecond (isUnflagged_askedBy _ _) (isUnflagged_askedBy _ _)
    (record_askedBy "Canny Acumen" "will")
  obtain ⟨shared, hshared, htaken⟩ := choicePrompts_again_of_unflagged hpasses
    (List.mem_of_getElem? hfirst) hsecond (isUnflagged_askedBy _ _) (isUnflagged_askedBy _ _)
    (.one "will")
  have hslug : Label.slug (askedBy "Canny Acumen" "will").source =
      Label.slug (askedBy "canny  acumen" "stealth").source := by decide +kernel
  rw [if_pos hslug] at htaken
  obtain rfl := Except.ok.inj (hagain.symm.trans hshared)
  obtain rfl := Option.some.inj (hq.symm.trans htaken)
  cases hselection

end RuleSource

end RuleElements
