import RuleElements.Choice.Prompt
import RuleElements.Proofs.Choice.Reprocessing

/-!
# Recorded choices flow back

A selection that answers a prompt is stored under the flag of the prompt, and the rule elements are
processed again. The prompt is where it was, it holds the selection, and it is complete. A selection
that is refused leaves the store as it was.

Results:
* `ChoicePrompt.recordIn_run`: a selection made in place, by what is recorded.
* `ChoicePrompt.isComplete_of_accepts`: what answers a prompt completes it.
* `Processing.recordIn_flows_back`: from the recorded selection to the prompt of the next pass.
-/

namespace RuleElements

namespace ChoicePrompt

variable {prompt : ChoicePrompt} {selection : Selection}

/-- **A selection made in place** changes the store as recording it does, and if it is refused it
does not change the store. -/
theorem recordIn_run (store : ChoiceStore) (prompt : ChoicePrompt) (selection : Selection) :
    (prompt.recordIn selection).run.run store =
      match record store prompt selection with
      | .ok (after, answered) => (.ok answered, after)
      | .error fault => (.error fault, store) := by
  unfold recordIn record
  cases prompt.accepts selection with
  | true => rfl
  | false => rfl

/-- What answers a prompt completes it. -/
theorem isComplete_of_accepts (h : prompt.accepts selection = true) :
    (prompt.withSelection selection).isComplete = true := by
  unfold accepts at h
  simp only [Bool.and_eq_true] at h
  exact h.1.1

/-- A prompt sees the selection that is stored under its flag. -/
theorem seen_setSelection (store : ChoiceStore) (prompt : ChoicePrompt) (selection : Selection) :
    prompt.seen (store.setSelection prompt.flag selection) = prompt.withSelection selection := by
  unfold seen withSelection
  rw [ChoiceStore.getSelection_setSelection]

end ChoicePrompt

/-- **A recorded choice flows back into processing.** A selection that is refused leaves the store
as it is. Any other is stored under the flag of its prompt, and nothing else is changed in the
store: no other selection and no switch. The same rule elements at the same level, processed with
the changed store, give at the same place the prompt that recording returned, which is complete and
not among those that are still to be answered. -/
theorem Processing.recordIn_flows_back {source : String} {level : Int} {store : ChoiceStore}
    {elements : List ParsedElement} {done : Pass} {i : Nat} {prompt : ChoicePrompt}
    (h : run { source, level, choices := some store } elements = .ok done)
    (hprompt : done.aggregate.choicePrompts[i]? = some prompt) (selection : Selection) :
    ∃ outcome after, (prompt.recordIn selection).run.run store = (outcome, after) ∧
      ChoicePrompt.record store prompt selection = outcome.map (Prod.mk after) ∧
      (∀ fault, outcome = .error fault → after = store) ∧
      ∀ answered, outcome = .ok answered →
        after.getSelection prompt.flag = some selection ∧
        (∀ flag, flag ≠ prompt.flag → after.getSelection flag = store.getSelection flag) ∧
        after.toggles = store.toggles ∧
        ∃ again, run { source, level, choices := some after } elements = .ok again ∧
          again.aggregate.choicePrompts[i]? = some answered ∧ answered.isComplete = true ∧
          answered ∉ again.aggregate.choicePrompts.filter (!·.isComplete) := by
  by_cases haccepts : prompt.accepts selection = true
  · have hrecord : ChoicePrompt.record store prompt selection =
        .ok (store.setSelection prompt.flag selection, prompt.withSelection selection) :=
      if_pos haccepts
    refine ⟨.ok (prompt.withSelection selection), store.setSelection prompt.flag selection, ?_,
      hrecord, nofun, ?_⟩
    · rw [ChoicePrompt.recordIn_run, hrecord]
    · rintro answered ⟨⟩
      have htoggles : store.toggles = (store.setSelection prompt.flag selection).toggles := rfl
      obtain ⟨again, hagain, hprompts⟩ := run_again htoggles h
      have hcomplete := ChoicePrompt.isComplete_of_accepts haccepts
      refine ⟨store.getSelection_setSelection _ _, fun flag hflag =>
        store.getSelection_setSelection_of_ne hflag selection, rfl, again, hagain, ?_, hcomplete,
        fun hmem => ?_⟩
      · rw [hprompts, List.getElem?_map, hprompt, Option.map_some, ChoicePrompt.seen_setSelection]
      · have hincomplete := (List.mem_filter.mp hmem).2
        rw [hcomplete] at hincomplete
        cases hincomplete
  · have hrecord : ChoicePrompt.record store prompt selection =
        .error (prompt.refusal selection) := if_neg haccepts
    refine ⟨.error (prompt.refusal selection), store, ?_, hrecord, fun _ _ => rfl, nofun⟩
    rw [ChoicePrompt.recordIn_run, hrecord]

/-- A feat with two prompts under one flag, the first for two values, the second for one, and an
effect that refers to the choice. Two values answer the first prompt; the second sees them too. -/
theorem Processing.recordIn_flows_back_of_lore :
    let option (value : String) : ChoiceOption := ⟨value, value, none, none⟩
    let choice (count : Int) : ParsedElement :=
      .known ⟨none, none, .choiceSet
        ⟨some "lore", none, [option "elf", option "dwarf", option "sea"], none, none, some count⟩⟩
    let elements : List ParsedElement :=
      [choice 2,
        .known ⟨none, none, .activeEffectLike
          ⟨"lore.\x7bitem|lore\x7d", .add, .number (.integer 2), none, none⟩⟩,
        choice 1]
    let store : ChoiceStore := { toggles := [("rage", true)] }
    ∃ done prompt, run { source := "Sage", level := 3, choices := some store } elements = .ok done ∧
      done.aggregate.choicePrompts[0]? = some prompt ∧ prompt.isComplete = false ∧
      ∃ after answered,
        ChoicePrompt.record store prompt (.many ["sea", "elf"]) = .ok (after, answered) ∧
        after.getSelection "lore" = some (.many ["sea", "elf"]) ∧ after.toggles = [("rage", true)] ∧
        ∃ again, run { source := "Sage", level := 3, choices := some after } elements = .ok again ∧
          again.aggregate.choicePrompts[0]? = some answered ∧ answered.isComplete = true := by
  intro option choice elements store
  have hdone : ∃ done prompt,
      run { source := "Sage", level := 3, choices := some store } elements = .ok done ∧
      done.aggregate.choicePrompts[0]? = some prompt ∧ prompt.isComplete = false ∧
      prompt.flag = "lore" ∧
      ChoicePrompt.record store prompt (.many ["sea", "elf"]) =
        .ok (store.setSelection "lore" (.many ["sea", "elf"]),
          prompt.withSelection (.many ["sea", "elf"])) := ⟨_, _, rfl, rfl, rfl, rfl, rfl⟩
  obtain ⟨done, prompt, h, hprompt, hopen, hflag, hrecorded⟩ := hdone
  obtain ⟨outcome, after, -, hrecord, -, hanswered⟩ :=
    recordIn_flows_back h hprompt (.many ["sea", "elf"])
  rw [hrecorded] at hrecord
  cases outcome with
  | error fault => cases hrecord
  | ok answered =>
    obtain ⟨hselection, -, htoggles, again, hagain, hplace, hcomplete, -⟩ := hanswered answered rfl
    rw [hflag] at hselection
    exact ⟨done, prompt, h, hprompt, hopen, after, answered, hrecorded.trans hrecord, hselection,
      htoggles, again, hagain, hplace, hcomplete⟩

end RuleElements
