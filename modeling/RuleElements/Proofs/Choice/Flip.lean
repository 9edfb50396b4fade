import RuleElements.Choice.Toggle
import RuleElements.Proofs.Choice.Switch

/-!
# A switch flips what it names

The player flips an entry of a pass, and the rule elements are processed again. What looks at the
key of the entry is enabled or not, and everything else is as it was: the other entries, the
remarks, and the adjustments, which neither read nor write whether a modifier is enabled.

Main definitions:
* `Processing.marks`: the modifiers of a pass that look at a key.
* `Aggregate.switched`, `Pass.switched`: all that looks at a key switched.

Results:
* `Pass.step_setToggle`, `Processing.runFrom_setToggle`: one step, and a run.
* `Processing.run_flipped`: what flipping an entry does to the pass that it comes from.
-/

namespace RuleElements

/-- The modifiers of a pass in order, marked if they look at a key. -/
def Processing.marks (p : Processing) (key : String) (elements : List ParsedElement) : List Bool :=
  elements.flatMap (·.marks p key)

/-- **An aggregate after a switch under a key**: all that looks at the key is enabled or not, and
everything else is as it was. -/
def Aggregate.switched (key : String) (on : Bool) (marks : List Bool) (a : Aggregate) :
    Aggregate :=
  { a with
    modifiers := List.zipWith (Modifier.switched on) marks a.modifiers
    rollOptions := a.rollOptions.map (·.switched key on)
    toggleProperties := a.toggleProperties.map (·.switched key on) }

/-- A pass after a switch under a key. -/
def Pass.switched (key : String) (on : Bool) (marks : List Bool) (pass : Pass) : Pass :=
  { pass with aggregate := pass.aggregate.switched key on marks }

/-- **An entry joins an aggregate after a switch** as it did before, with its own mark. -/
theorem Aggregate.switched_insert {key : String} {on mark : Bool} {marks : List Bool}
    {a : Aggregate} (h : marks.length = a.modifiers.length) {x : Entry}
    (hmark : mark = true → x.kind = .flatModifier) :
    (a.insert x).switched key on (marks ++ x.modifiers.map fun _ => mark) =
      (a.switched key on marks).insert (x.switched key on mark) := by
  cases x with
  | modifier m => simp only [insert, switched, Entry.modifiers, Entry.switched, List.map_cons,
      List.map_nil, List.zipWith_append h, List.zipWith_cons_cons, List.zipWith_nil_left]
  | rollOption r => simp only [insert, switched, Entry.modifiers, Entry.switched, List.map_nil,
      List.append_nil, List.map_append, List.map_cons]
  | toggleProperty t => simp only [insert, switched, Entry.modifiers, Entry.switched, List.map_nil,
      List.append_nil, List.map_append, List.map_cons]
  | weaponPotency rune =>
    -- a rune brings two modifiers, and neither is marked
    obtain rfl : mark = false := Bool.eq_false_iff.mpr fun h => Kind.noConfusion (hmark h)
    simp only [insert, switched, Entry.modifiers, Entry.switched, Modifier.switched, List.map_cons,
      List.map_nil, List.zipWith_append h, List.zipWith_cons_cons, List.zipWith_nil_left,
      Bool.false_eq_true, if_false]
  | _ => simp only [insert, switched, Entry.modifiers, Entry.switched, List.map_nil,
      List.append_nil]

/-! ## Adjustments -/

namespace AdjustModifierRule

variable {rule : AdjustModifierRule} {on : Bool}

theorem fits_switched (mark : Bool) (m : Modifier) :
    rule.fits (m.switched on mark) = rule.fits m := by
  cases mark <;> rfl

/-- An adjustment does not look at whether a modifier is enabled, and leaves it so. -/
theorem adjustOne_switched (change : Number) (mark : Bool) (m : Modifier) :
    rule.adjustOne change (m.switched on mark) =
      (rule.adjustOne change m).map (·.switched on mark) := by
  unfold adjustOne
  rw [fits_switched]
  split
  · have hvalue : (m.switched on mark).value = m.value := by cases mark <;> rfl
    rw [hvalue]
    cases (rule.mode.getD .add).apply m.value change with
    | error fault => rfl
    | ok value => cases mark <;> rfl
  · rfl

theorem any_fits_switched {marks : List Bool} {ms : List Modifier} (h : marks.length = ms.length) :
    (List.zipWith (Modifier.switched on) marks ms).any rule.fits = ms.any rule.fits := by
  induction ms generalizing marks with
  | nil => rw [List.zipWith_nil_right]
  | cons m ms ih =>
    obtain ⟨mark, marks, rfl⟩ := List.exists_cons_of_length_eq_add_one h
    rw [List.zipWith_cons_cons, List.any_cons, List.any_cons, fits_switched, ih (Nat.succ.inj h)]

/-- An adjustment of a list does not look at which modifiers are enabled, and leaves them so. -/
theorem adjust_switched (change : Number) {marks : List Bool} {ms : List Modifier}
    (h : marks.length = ms.length) :
    rule.adjust change (List.zipWith (Modifier.switched on) marks ms) =
      (rule.adjust change ms).map (List.zipWith (Modifier.switched on) marks) := by
  unfold adjust
  induction ms generalizing marks with
  | nil =>
    obtain rfl := List.eq_nil_of_length_eq_zero h
    rfl
  | cons m ms ih =>
    obtain ⟨mark, marks, rfl⟩ := List.exists_cons_of_length_eq_add_one h
    rw [List.zipWith_cons_cons, List.mapM_cons, List.mapM_cons, adjustOne_switched,
      ih (Nat.succ.inj h)]
    cases rule.adjustOne change m with
    | error fault => rfl
    | ok n => cases ms.mapM (rule.adjustOne change) <;> rfl

end AdjustModifierRule

/-! ## Steps -/

variable {source : String} {level : Int} {store : ChoiceStore} {key : String} {on : Bool}

namespace Pass

variable {pass : Pass} {marks : List Bool}

/-- An adjustment after a switch. -/
theorem adjust_setToggle (h : marks.length = pass.aggregate.modifiers.length)
    (rule : AdjustModifierRule) :
    (pass.switched key on marks).adjust ⟨source, level, some (store.setToggle key on)⟩ rule =
      (pass.adjust ⟨source, level, some store⟩ rule).map (·.switched key on marks) := by
  have hmodifiers : (pass.switched key on marks).aggregate.modifiers =
      List.zipWith (Modifier.switched on) marks pass.aggregate.modifiers := rfl
  unfold adjust
  cases hchange : rule.change level with
  | failed fault => rfl
  | inert reasons => rfl
  | made change =>
    simp only [hmodifiers, AdjustModifierRule.any_fits_switched h,
      AdjustModifierRule.adjust_switched change h]
    split
    · cases rule.adjust change pass.aggregate.modifiers with
      | error fault => rfl
      | ok modifiers => rfl
    · rfl

/-- A rule element other than an adjustment after a switch. -/
theorem take_setToggle (h : marks.length = pass.aggregate.modifiers.length) (e : RuleElement) :
    (pass.switched key on marks).take ⟨source, level, some (store.setToggle key on)⟩ e =
      (pass.take ⟨source, level, some store⟩ e).switched key on
        (marks ++ (ParsedElement.known e).marks ⟨source, level, some store⟩ key) := by
  have hresult : (ParsedElement.known e).result? ⟨source, level, some store⟩ =
    (e.process ⟨source, level, some store⟩).result? := rfl
  unfold take
  rw [RuleElement.process_setToggle]
  cases hprocess : e.process ⟨source, level, some store⟩ with
  | inert reasons =>
    rw [hprocess] at hresult
    rw [ParsedElement.marks_of_none hresult, List.append_nil]
    rfl
  | failed fault =>
    rw [hprocess] at hresult
    rw [ParsedElement.marks_of_none hresult, List.append_nil]
    rfl
  | made x =>
    rw [hprocess] at hresult
    rw [ParsedElement.marks_of_some hresult]
    have hmark : (ParsedElement.known e).switchesModifier source key = true →
        x.kind = .flatModifier := fun hmark =>
      (RuleElement.kind_of_process hprocess).trans (ParsedElement.kind_of_switchesModifier hmark)
    exact congrArg (Pass.mk · pass.log) (Aggregate.switched_insert h hmark).symm

/-- **One step after a switch** does what it did before, and what looks at the key is switched. -/
theorem step_setToggle (h : marks.length = pass.aggregate.modifiers.length) (e : ParsedElement) :
    (pass.switched key on marks).step ⟨source, level, some (store.setToggle key on)⟩ e =
      (pass.step ⟨source, level, some store⟩ e).map
        (·.switched key on (marks ++ e.marks ⟨source, level, some store⟩ key)) := by
  cases e with
  | unrecognized payload =>
    rw [ParsedElement.marks_of_none rfl, List.append_nil]
    rfl
  | known e =>
    rw [step_known, step_known]
    cases hadjusts : (ParsedElement.known e).adjustment? with
    | some rule =>
      rw [ParsedElement.marks_of_none (Accounts.result?_of_adjustment hadjusts), List.append_nil]
      exact adjust_setToggle h rule
    | none => exact congrArg Except.ok (take_setToggle h e)

end Pass

/-! ## Runs -/

namespace Processing

/-- The marks go with the modifiers, one for each. -/
theorem length_marks_step {p : Processing} {pass next : Pass} {e : ParsedElement}
    {marks : List Bool} (h : marks.length = pass.aggregate.modifiers.length)
    (hstep : pass.step p e = .ok next) :
    (marks ++ e.marks p key).length = next.aggregate.modifiers.length := by
  obtain ⟨-, ms, -, hms, -⟩ := Pass.step_cases hstep
  have hlength := congrArg List.length (ParsedElement.readjust_outline hms)
  rw [List.length_map, List.length_map] at hlength
  rw [Pass.modifiers_step hstep hms, List.length_append, List.length_append, h, hlength]
  exact congrArg _ (List.length_map _)

/-- **A run after a switch** does what it did before, and what looks at the key is switched. -/
theorem runFrom_setToggle : ∀ {elements : List ParsedElement} {pass : Pass} {marks : List Bool},
    marks.length = pass.aggregate.modifiers.length →
      runFrom ⟨source, level, some (store.setToggle key on)⟩ (pass.switched key on marks) elements =
        (runFrom ⟨source, level, some store⟩ pass elements).map
          (·.switched key on
            (marks ++ Processing.marks ⟨source, level, some store⟩ key elements))
  | [], pass, marks, _ => by
    rw [show Processing.marks _ key [] = [] from rfl, List.append_nil]
    rfl
  | e :: rest, pass, marks, h => by
    -- the marks so far go with the modifiers so far, so a step keeps their number
    unfold runFrom
    rw [List.foldlM_cons, List.foldlM_cons, Pass.step_setToggle h]
    cases hstep : pass.step ⟨source, level, some store⟩ e with
    | error fault => rfl
    | ok next =>
      have hlength : (marks ++ e.marks ⟨source, level, some store⟩ key).length =
        next.aggregate.modifiers.length := length_marks_step h hstep
      rw [show Processing.marks _ key (e :: rest) = e.marks _ key ++ Processing.marks _ key rest
        from List.flatMap_cons, ← List.append_assoc]
      exact runFrom_setToggle hlength

/-- A pass after a switch. -/
theorem run_setToggle (elements : List ParsedElement) :
    run ⟨source, level, some (store.setToggle key on)⟩ elements =
      (run ⟨source, level, some store⟩ elements).map
        (·.switched key on (marks ⟨source, level, some store⟩ key elements)) := by
  have hstart : ([] : List Bool).length = ({} : Pass).aggregate.modifiers.length := rfl
  exact runFrom_setToggle hstart

/-- There is a mark for each modifier of a pass. -/
theorem length_marks {p : Processing} {elements : List ParsedElement} {done : Pass}
    (h : p.run elements = .ok done) :
    (p.marks key elements).length = done.aggregate.modifiers.length := by
  obtain ⟨cs, hcs⟩ := runFrom_account h
  have hlength := congrArg List.length (pool_outline hcs.modifiers)
  rw [List.length_map, List.length_map] at hlength
  rw [hlength]
  simp [marks, ParsedElement.marks, List.length_flatMap]

/-- **A switch flips what it names and nothing else.** Let a pass have come to its end. Flipping one
of its roll options that may be switched and has a name, or one of its switched properties, gives
the opposite of its state. The same rule elements at the same level, processed with the changed
store, give the same pass, remarks and log included, but that what looks at the key now has that
state: the roll options that may be switched and have this option, the properties of this name, and
the modifiers that are marked. The entry that was flipped is among them, at its place. There is a
mark for each modifier of the pass, and the modifiers are those of the rule elements in order, but
for adjustments of their values and sources. -/
theorem run_flipped {elements : List ParsedElement} {done : Pass}
    (h : run { source, level, choices := some store } elements = .ok done) :
    (∀ key, (marks { source, level, choices := some store } key elements).length =
      done.aggregate.modifiers.length) ∧
    done.aggregate.modifiers.map Modifier.outline =
      (elements.flatMap (·.pooled { source, level, choices := some store })).map
        Modifier.outline ∧
    (∀ (i : Nat) r, done.aggregate.rollOptions[i]? = some r → r.toggleable = true →
      r.option ≠ "" →
        ∃ after again, r.flip store = .ok (!r.enabled, after) ∧
          run { source, level, choices := some after } elements = .ok again ∧
          again = done.switched r.option (!r.enabled)
            (marks { source, level, choices := some store } r.option elements) ∧
          again.aggregate.rollOptions[i]? = some { r with enabled := !r.enabled }) ∧
    ∀ (i : Nat) t, done.aggregate.toggleProperties[i]? = some t →
      ∃ after again, t.flip store = (!t.enabled, after) ∧
        run { source, level, choices := some after } elements = .ok again ∧
        again = done.switched t.property (!t.enabled)
          (marks { source, level, choices := some store } t.property elements) ∧
        again.aggregate.toggleProperties[i]? = some { t with enabled := !t.enabled } := by
  obtain ⟨cs, hcs⟩ := runFrom_account h
  have hagain (key : String) (on : Bool) :
      run ⟨source, level, some (store.setToggle key on)⟩ elements =
        .ok (done.switched key on (marks ⟨source, level, some store⟩ key elements)) := by
    rw [run_setToggle, h]
    rfl
  refine ⟨fun key => length_marks h, pool_outline hcs.modifiers,
    fun i r hr htoggleable hname => ?_, fun i t ht => ?_⟩
  · refine ⟨_, _, if_neg hname, hagain _ _, rfl, ?_⟩
    have hplace : (done.aggregate.rollOptions.map (·.switched r.option !r.enabled))[i]? =
        some (r.switched r.option !r.enabled) := by
      rw [List.getElem?_map, hr, Option.map_some]
    refine hplace.trans (congrArg some (if_pos ?_))
    rw [htoggleable, Bool.true_and, beq_self_eq_true]
  · refine ⟨_, _, rfl, hagain _ _, rfl, ?_⟩
    have hplace : (done.aggregate.toggleProperties.map (·.switched t.property !t.enabled))[i]? =
        some (t.switched t.property !t.enabled) := by
      rw [List.getElem?_map, ht, Option.map_some]
    exact hplace.trans (congrArg some (if_pos (beq_self_eq_true _)))

/-- An aura with a roll option, a gated penalty that goes by the same key, a property of another
name, a bonus that is not gated, and an adjustment of both modifiers. Switching the roll option off
disables the penalty, adjusted as it is, and leaves the bonus and the property as they are. -/
theorem run_flipped_of_aura :
    let gated : ParsedElement := .known ⟨none, some [.option "raging"], .flatModifier
      ⟨"speed", .number (.integer (-10)), none, none, none⟩⟩
    let plain : ParsedElement := .known ⟨none, none, .flatModifier
      ⟨"speed", .number (.integer 5), none, none, none⟩⟩
    let elements : List ParsedElement :=
      [.known ⟨none, none, .rollOption ⟨"Aura:speed", none, some true, none, none⟩⟩, gated, plain,
        .known ⟨none, none, .toggleProperty ⟨"flags.aura", some true, none, none⟩⟩,
        .known ⟨none, none, .adjustModifier ⟨"speed", none, none, some (.number (.integer 1))⟩⟩]
    ∃ done r, run { source := "Aura", choices := some {} } elements = .ok done ∧
      done.aggregate.rollOptions[0]? = some r ∧ r.option = "Aura:speed" ∧ r.enabled = true ∧
      marks { source := "Aura", choices := some {} } "Aura:speed" elements = [true, false] ∧
      ∃ after again, r.flip {} = .ok (false, after) ∧
        run { source := "Aura", choices := some after } elements = .ok again ∧
        again.aggregate.rollOptions.map (·.enabled) = [false] ∧
        again.aggregate.modifiers.map (fun m => (m.value, m.enabled)) =
          [(.integer (-9), false), (.integer 6, true)] ∧
        again.aggregate.toggleProperties.map (·.enabled) = [true] := by
  intro gated plain elements
  have hdone : ∃ done r m n t,
      run { source := "Aura", choices := some {} } elements = .ok done ∧
      done.aggregate.rollOptions = [r] ∧ done.aggregate.modifiers = [m, n] ∧
      done.aggregate.toggleProperties = [t] ∧
      r.option = "Aura:speed" ∧ r.toggleable = true ∧ r.enabled = true ∧
      m.value = .integer (-9) ∧ n.value = .integer 6 ∧ n.enabled = true ∧
      t.property = "flags.aura" ∧ t.enabled = true :=
    ⟨_, _, _, _, _, rfl, rfl, rfl, rfl, rfl, rfl, rfl, rfl, rfl, rfl, rfl, rfl⟩
  obtain ⟨done, r, m, n, t, h, hrolls, hmodifiers, hproperties, hoption, htoggleable, henabled, hm,
    hn, hplain, hproperty, ht⟩ := hdone
  have hr : done.aggregate.rollOptions[0]? = some r := by rw [hrolls]; rfl
  have hmarks : marks { source := "Aura", choices := some {} } "Aura:speed" elements =
      [true, false] := rfl
  obtain ⟨-, -, hflip, -⟩ := run_flipped h
  obtain ⟨after, again, hafter, hrun, hagain, -⟩ :=
    hflip 0 r hr htoggleable (by rw [hoption]; decide)
  rw [henabled, Bool.not_true] at hafter hagain
  rw [hoption, hmarks] at hagain
  refine ⟨done, r, h, hr, hoption, henabled, hmarks, after, again, hafter, hrun, ?_, ?_, ?_⟩
  · simp [hagain, Pass.switched, Aggregate.switched, hrolls, RollOption.switched, htoggleable,
      hoption]
  · simp [hagain, Pass.switched, Aggregate.switched, hmodifiers, Modifier.switched, hm, hn, hplain]
  · simp [hagain, Pass.switched, Aggregate.switched, hproperties, ToggleProperty.switched,
      hproperty, ht]

end Processing

end RuleElements
