import RuleElements.Proofs.Processing.Accounting

/-!
# Passes with other choices

The same rule elements are processed again after the player has chosen. The pool of modifiers looks
at the switches only, so with the same switches the pass comes to its end as before. The prompts
look at the selections only, each at that of its own flag, and otherwise stay as they are, in order.

Main definitions:
* `ParsedElement.prompt?`: the prompt that a rule element gives.
* `ChoicePrompt.seen`: a prompt with the selection that a store holds for it.

Results:
* `Processing.pool_congr`: the pool with other choices and the same switches.
* `Processing.choicePrompts_of_run`: the prompts of a pass.
* `Processing.run_again`: a pass with other selections comes to its end, with the prompts as it sees
  them.
-/

namespace RuleElements

/-- An entry that is neither a modifier nor a potency rune adds nothing to the pool. -/
theorem Entry.modifiers_eq_nil {x : Entry} (hflat : x.kind ≠ .flatModifier)
    (hrune : x.kind ≠ .weaponPotency) : x.modifiers = [] := by
  cases x <;> first | rfl | exact absurd rfl hflat | exact absurd rfl hrune

/-- The prompt that an entry is, if it is one. -/
def Entry.prompt? : Entry → Option ChoicePrompt
  | .choicePrompt prompt => some prompt
  | _ => none

theorem Entry.prompt?_eq_none {x : Entry} (h : x.kind ≠ .choiceSet) : x.prompt? = none := by
  cases x <;> first | rfl | exact absurd rfl h

/-- The prompt that a rule element gives, if it gives one. -/
def ParsedElement.prompt? (p : Processing) (e : ParsedElement) : Option ChoicePrompt :=
  (e.result? p).bind Entry.prompt?

/-- A prompt with the selection that a store holds for it. -/
def ChoicePrompt.seen (store : ChoiceStore) (prompt : ChoicePrompt) : ChoicePrompt :=
  { prompt with selection := store.getSelection prompt.flag }

namespace ParsedElement

variable {source : String} {level : Int} {old new : ChoiceStore}

/-- The entry that a rule element gives has its kind. -/
theorem kind_of_result? {p : Processing} {e : RuleElement} {x : Entry}
    (h : (known e).result? p = some x) : x.kind = e.kind :=
  RuleElement.kind_of_process (Attempt.result?_eq_some.mp h)

/-- A rule element of another kind than modifiers and potency runes adds nothing to the pool. -/
theorem pooled_eq_nil {p : Processing} {e : RuleElement} (hflat : e.kind ≠ .flatModifier)
    (hrune : e.kind ≠ .weaponPotency) : (known e).pooled p = [] := by
  unfold pooled
  cases hresult : (known e).result? p with
  | none => rfl
  | some x =>
    have hkind := kind_of_result? hresult
    rw [Option.toList_some, List.flatMap_singleton,
      Entry.modifiers_eq_nil (hkind ▸ hflat) (hkind ▸ hrune)]

/-- A rule element of another kind than choices gives no prompt. -/
theorem prompt?_eq_none {p : Processing} {e : RuleElement} (h : e.kind ≠ .choiceSet) :
    (known e).prompt? p = none := by
  unfold prompt?
  cases hresult : (known e).result? p with
  | none => rfl
  | some x => exact Entry.prompt?_eq_none (kind_of_result? hresult ▸ h)

/-- **What a rule element adds to the pool** depends on the switches of the store only. -/
theorem pooled_congr (h : old.toggles = new.toggles) (e : ParsedElement) :
    e.pooled ⟨source, level, some old⟩ = e.pooled ⟨source, level, some new⟩ := by
  cases e with
  | unrecognized payload => rfl
  | known e =>
    by_cases hflat : e.kind = .flatModifier
    · obtain ⟨label, predicate, effect⟩ := e
      cases effect <;> try cases hflat
      have htoggle : ∀ key, Processing.toggle? ⟨source, level, some old⟩ key =
          Processing.toggle? ⟨source, level, some new⟩ key := fun key =>
        congrArg (Fields.get? · key) h
      simp only [pooled, result?, RuleElement.process, Processing.flatModifier, htoggle]
    · by_cases hrune : e.kind = .weaponPotency
      · obtain ⟨label, predicate, effect⟩ := e
        cases effect <;> try cases hrune
        rfl
      · rw [pooled_eq_nil hflat hrune, pooled_eq_nil hflat hrune]

/-- **The prompt of a rule element** depends on the store by its selection only. -/
theorem prompt?_eq (e : ParsedElement) :
    e.prompt? ⟨source, level, some new⟩ =
      (e.prompt? ⟨source, level, some old⟩).map (·.seen new) := by
  cases e with
  | unrecognized payload => rfl
  | known e =>
    by_cases hkind : e.kind = .choiceSet
    · obtain ⟨label, predicate, effect⟩ := e
      cases effect <;> try cases hkind
      rename_i rule
      simp only [prompt?, result?, RuleElement.process, Processing.choiceSet]
      split <;> rfl
    · rw [prompt?_eq_none hkind, prompt?_eq_none hkind, Option.map_none]

end ParsedElement

namespace Processing

variable {source : String} {level : Int} {old new : ChoiceStore} {elements : List ParsedElement}

/-- **The pool of a run with other choices** is the same if the switches are. -/
theorem pool_congr (h : old.toggles = new.toggles) (ms : List Modifier) :
    pool ⟨source, level, some old⟩ ms elements = pool ⟨source, level, some new⟩ ms elements := by
  unfold pool
  congr 1
  funext ms e
  rw [ParsedElement.pooled_congr h]
  rfl

/-- The prompts of a pass are those that its rule elements give, in order. -/
theorem choicePrompts_of_run {p : Processing} {done : Pass} (h : p.run elements = .ok done) :
    done.aggregate.choicePrompts = elements.filterMap (·.prompt? p) := by
  obtain ⟨cs, hcs⟩ := runFrom_account h
  have hbucket : done.aggregate.bucket .choiceSet =
      (elements.filterMap (·.result? p)).filter (·.kind = .choiceSet) := by
    rw [hcs.bucket .choiceSet nofun, hcs.entries_eq]
    rfl
  have hall : done.aggregate.choicePrompts =
      (done.aggregate.bucket .choiceSet).filterMap Entry.prompt? := by
    show _ = (done.aggregate.choicePrompts.map Entry.choicePrompt).filterMap Entry.prompt?
    rw [List.filterMap_map]
    exact List.filterMap_some.symm
  rw [hall, hbucket, List.filterMap_filter, List.filterMap_filterMap]
  congr 1
  funext e
  unfold ParsedElement.prompt?
  cases e.result? p with
  | none => rfl
  | some x =>
    simp only [Option.bind_some]
    split
    · rfl
    · rename_i hkind
      exact (Entry.prompt?_eq_none (of_decide_eq_false (Bool.eq_false_iff.mpr hkind))).symm

/-- **A pass with other selections** comes to its end as well, and its prompts are those from before
with the selections that it sees. -/
theorem run_again (htoggles : old.toggles = new.toggles) {done : Pass}
    (h : run ⟨source, level, some old⟩ elements = .ok done) :
    ∃ again, run ⟨source, level, some new⟩ elements = .ok again ∧
      again.aggregate.choicePrompts = done.aggregate.choicePrompts.map (·.seen new) := by
  obtain ⟨ms, hpool⟩ := runFrom_ok_iff.mp ⟨done, h⟩
  rw [pool_congr htoggles] at hpool
  obtain ⟨again, hagain⟩ := runFrom_ok_iff.mpr ⟨ms, hpool⟩
  refine ⟨again, hagain, ?_⟩
  rw [choicePrompts_of_run hagain, choicePrompts_of_run h, List.map_filterMap]
  congr 1
  funext e
  exact e.prompt?_eq

end Processing

end RuleElements
