import RuleElements.Proofs.Choice.Reprocessing

/-!
# Rule elements and switches

Three sorts of entries look at the switches of the store: roll options that may be switched,
switched properties, and modifiers that are gated. Each looks at one key, and a switch under that
key decides whether the entry is enabled. The other entries do not look at the switches.

A modifier does not show which key it looks at, since an adjustment changes its source. Its rule
element does, so the modifiers of a pass are marked by the rule elements that they come from.

Main definitions:
* `Entry.switched`: an entry with what looks at a key switched.
* `ParsedElement.switchesModifier`, `ParsedElement.marks`: the modifiers that look at a key.

Results:
* `RuleElement.process_setToggle`: the entry of a rule element after a switch.
-/

namespace RuleElements

/-! ## What a switch does to entries -/

/-- A modifier that is enabled or not, if it is marked. -/
def Modifier.switched (on mark : Bool) (m : Modifier) : Modifier :=
  if mark then { m with enabled := on } else m

/-- A roll option after a switch under a key. -/
def RollOption.switched (key : String) (on : Bool) (r : RollOption) : RollOption :=
  if r.toggleable && r.option == key then { r with enabled := on } else r

/-- A property after a switch under a key. -/
def ToggleProperty.switched (key : String) (on : Bool) (t : ToggleProperty) : ToggleProperty :=
  if t.property == key then { t with enabled := on } else t

/-- An entry after a switch under a key; a modifier only if it is marked. -/
def Entry.switched (key : String) (on mark : Bool) : Entry → Entry
  | .modifier m => .modifier (m.switched on mark)
  | .rollOption r => .rollOption (r.switched key on)
  | .toggleProperty t => .toggleProperty (t.switched key on)
  | other => other

/-- Whether a rule element gives a gated modifier that looks at a key. -/
def ParsedElement.switchesModifier (source key : String) : ParsedElement → Bool
  | .known ⟨_, predicate, .flatModifier rule⟩ =>
    predicate.isSome && modifierToggleKey source rule.selector == key
  | _ => false

/-- The modifiers that a rule element adds to the pool, marked if they look at a key. -/
def ParsedElement.marks (p : Processing) (key : String) (e : ParsedElement) : List Bool :=
  (e.pooled p).map fun _ => e.switchesModifier p.source key

/-- An entry of another kind does not look at the switches. -/
theorem Entry.switched_eq_self {key : String} {on mark : Bool} {x : Entry}
    (hflat : x.kind ≠ .flatModifier) (hroll : x.kind ≠ .rollOption)
    (hproperty : x.kind ≠ .toggleProperty) : x.switched key on mark = x := by
  cases x with
  | modifier m => exact absurd rfl hflat
  | rollOption r => exact absurd rfl hroll
  | toggleProperty t => exact absurd rfl hproperty
  | _ => rfl

namespace ParsedElement

variable {p : Processing} {key : String} {e : ParsedElement}

/-- A rule element without an entry adds no marks. -/
theorem marks_of_none (h : e.result? p = none) : e.marks p key = [] := by
  unfold marks pooled
  rw [h]
  rfl

/-- The marks of a rule element with an entry are those of its modifiers. -/
theorem marks_of_some {x : Entry} (h : e.result? p = some x) :
    e.marks p key = x.modifiers.map fun _ => e.switchesModifier p.source key := by
  unfold marks pooled
  rw [h, Option.toList_some, List.flatMap_singleton]

end ParsedElement

/-- Only a flat modifier is marked. -/
theorem ParsedElement.kind_of_switchesModifier {source key : String} {e : RuleElement}
    (h : (known e).switchesModifier source key = true) : e.kind = .flatModifier := by
  obtain ⟨label, predicate, effect⟩ := e
  cases effect <;> first | rfl | cases h

/-! ## Rule elements -/

variable {source : String} {level : Int} {store : ChoiceStore} {key : String} {on : Bool}

namespace Processing

/-- The switch that a pass sees under a key after another has been set. -/
theorem toggle?_setToggle (other : String) :
    toggle? ⟨source, level, some (store.setToggle key on)⟩ other =
      if other = key then some on else toggle? ⟨source, level, some store⟩ other := by
  split
  · rename_i heq
    obtain rfl := heq
    exact Fields.get?_set _ _ _
  · rename_i hne
    exact Fields.get?_set_of_ne hne _ _

/-- A gated modifier looks at its own key, and one that is not gated at none. -/
theorem flatModifier_setToggle (label : Option String) (predicate : Option Predicate)
    (rule : FlatModifierRule) :
    flatModifier ⟨source, level, some (store.setToggle key on)⟩ label predicate rule =
      (flatModifier ⟨source, level, some store⟩ label predicate rule).map
        (Entry.switched key on
          (predicate.isSome && modifierToggleKey source rule.selector == key)) := by
  unfold flatModifier
  cases rule.value.resolve level with
  | inert reasons => rfl
  | failed fault => rfl
  | made value =>
    cases predicate with
    | none => rfl
    | some predicate =>
      simp only [Attempt.map, Option.isSome_some, if_true, Bool.true_and, toggle?_setToggle]
      by_cases hkey : modifierToggleKey source rule.selector = key
      · simp [hkey, Entry.switched, Modifier.switched]
      · simp [hkey, Entry.switched, Modifier.switched]

/-- A roll option that may be switched looks at its option, and another one at no key. -/
theorem rollOption_setToggle (label : Option String) (predicate : Option Predicate)
    (rule : RollOptionRule) (mark : Bool) :
    rollOption ⟨source, level, some (store.setToggle key on)⟩ label predicate rule =
      (rollOption ⟨source, level, some store⟩ label predicate rule).switched key on mark := by
  unfold rollOption Entry.switched RollOption.switched
  cases rule.toggleable.getD false with
  | false => rfl
  | true =>
    by_cases hkey : rule.option = key
    · simp [hkey, toggle?_setToggle]
    · simp [hkey, toggle?_setToggle]

/-- A switched property looks at its property. -/
theorem toggleProperty_setToggle (label : Option String) (predicate : Option Predicate)
    (rule : TogglePropertyRule) (mark : Bool) :
    toggleProperty ⟨source, level, some (store.setToggle key on)⟩ label predicate rule =
      (toggleProperty ⟨source, level, some store⟩ label predicate rule).switched key on mark := by
  unfold toggleProperty Entry.switched ToggleProperty.switched
  by_cases hkey : rule.property = key
  · simp [hkey, toggle?_setToggle]
  · simp [hkey, toggle?_setToggle]

end Processing

namespace RuleElement

/-- A rule element of another kind does not look at the switches. -/
theorem process_of_other {e : RuleElement} (hflat : e.kind ≠ .flatModifier)
    (hroll : e.kind ≠ .rollOption) (hproperty : e.kind ≠ .toggleProperty) (mark : Bool) :
    e.process ⟨source, level, some (store.setToggle key on)⟩ =
      (e.process ⟨source, level, some store⟩).map (Entry.switched key on mark) := by
  -- a selection under any flag is what it was
  have hsame : e.process ⟨source, level, some (store.setToggle key on)⟩ =
      e.process ⟨source, level, some store⟩ := by
    obtain ⟨label, predicate, effect⟩ := e
    cases effect with
    | flatModifier rule => exact absurd rfl hflat
    | rollOption rule => exact absurd rfl hroll
    | toggleProperty rule => exact absurd rfl hproperty
    | _ => rfl
  rw [hsame]
  cases hprocess : e.process ⟨source, level, some store⟩ with
  | inert reasons => rfl
  | failed fault => rfl
  | made x =>
    have hkind := kind_of_process hprocess
    exact congrArg Attempt.made
      (Entry.switched_eq_self (hkind ▸ hflat) (hkind ▸ hroll) (hkind ▸ hproperty)).symm

/-- **The entry of a rule element after a switch** is the one from before, switched. -/
theorem process_setToggle (e : RuleElement) :
    e.process ⟨source, level, some (store.setToggle key on)⟩ =
      (e.process ⟨source, level, some store⟩).map
        (Entry.switched key on ((ParsedElement.known e).switchesModifier source key)) := by
  obtain ⟨label, predicate, effect⟩ := e
  cases effect with
  | flatModifier rule => exact Processing.flatModifier_setToggle _ _ _
  | rollOption rule => exact congrArg Attempt.made (Processing.rollOption_setToggle _ _ _ _)
  | toggleProperty rule =>
    exact congrArg Attempt.made (Processing.toggleProperty_setToggle _ _ _ _)
  | _ =>
    refine process_of_other ?_ ?_ ?_ _
    all_goals
      intro h
      cases h

end RuleElement

end RuleElements
