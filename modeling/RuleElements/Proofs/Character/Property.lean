import RuleElements.Character.Property
import RuleElements.Proofs.Data.Path
import RuleElements.Proofs.Faulting
import RuleElements.Proofs.Numeric.Integral

/-!
# Writing a property touches only its path

A change of a property goes down its path, makes the levels that are missing, and writes at the end.
This module says when it fails, and what is found at every path after it.

Main definitions:
* `Data.current?`: the value that a change starts from.
* `PropertyChange.Writes`: how a change that succeeds goes down its path.
* `Data.StopsAt`, `Data.OddAt`: what is in the way of a change.

Results:
* `writes_of_applyAt`: a change that succeeds goes down its path.
* `Writes.valueAt?_path`, `Writes.valueAt?_of_apart`, `Writes.valueAt?_before`: the value at the
  path, beside it and above it.
* `applyAt_eq_error_iff`: what a change fails with.
* `apply_touches_path`: all of it.

Out of scope: values that stand in two places at once. Objects are trees here, and a change is seen
on the paths through it only; an object that is shared would change in all its places. Nor is there
a bound on the depth of objects or on the digits of a number that is written out, either of which
may end the run of an implementation.
-/

namespace RuleElements

namespace Data

/-- **The value that a change starts from**: nothing for null, and the number otherwise, if there is
one. -/
def current? : Data → Option (Option Quantity)
  | .null => some none
  | d => (Quantity.ofData? d).map some

/-- A value without fields stands before the end of a path, under the name `part`. -/
def StopsAt (root : Data) (path : List String) (part : String) : Prop :=
  ∃ before, before ++ [part] <+: path ∧ before ++ [part] ≠ path ∧
    ∃ d, root.valueAt? (before ++ [part]) = some d ∧ d ≠ .null ∧ d.fields? = none

/-- What stands at the end of a path is neither a number nor a truth value. -/
def OddAt (root : Data) (path : List String) : Prop :=
  ∃ d, root.valueAt? path = some d ∧ d ≠ .null ∧ Quantity.ofData? d = none

end Data

namespace PropertyChange

variable {c : PropertyChange} {fields inner out : List (String × Data)} {name : String}
  {path rest : List String}

/-! ## One step -/

theorem applyAt_singleton (c : PropertyChange) (fields : List (String × Data)) (name : String) :
    c.applyAt [name] fields =
      match (Data.under fields name).current? with
      | none => .error (.notNumeric c.path)
      | some current => (Fault.ofArithmetic (c.mode.apply current c.value)).map fun value =>
        Fields.set fields name value.toData := by
  unfold applyAt Data.under
  cases (Fields.get? fields name).getD .null <;> rfl

theorem applyAt_cons (hfields : (Data.object fields).IsIntegral) (hrest : rest ≠ []) :
    c.applyAt (name :: rest) fields =
      match (Data.under fields name).level? with
      | none => .error (.crossesValue c.path name)
      | some inner => (c.applyAt rest inner).map fun inner =>
        Fields.set fields name (.object inner) := by
  have hunder := hfields.under name
  cases rest with
  | nil => exact absurd rfl hrest
  | cons next rest =>
    conv_lhs => unfold applyAt
    unfold Data.under at hunder ⊢
    generalize (Fields.get? fields name).getD .null = d at hunder ⊢
    cases hunder <;> rfl

/-- A change of an integer, or of nothing, by an integer has a result. -/
theorem exists_modeApply (mode : PropertyMode) {current : Option Quantity} {change : Number}
    (hcurrent : ∀ q ∈ current, q.toNumber.IsIntegral) (hchange : change.IsIntegral) :
    ∃ value, mode.apply current change = .ok value := by
  obtain ⟨n, rfl⟩ := hchange
  obtain ⟨k, hk⟩ : (current.getD (.number (.integer 0))).toNumber.IsIntegral := by
    cases current with
    | none => exact ⟨0, rfl⟩
    | some q => exact hcurrent q rfl
  cases mode <;> simp only [PropertyMode.apply, hk] <;> exact ⟨_, rfl⟩

theorem current?_eq_none_iff {d : Data} :
    d.current? = none ↔ d ≠ .null ∧ Quantity.ofData? d = none := by
  cases d <;> simp [Data.current?]

/-- What a change starts from is the value at its path, if that is a quantity. -/
theorem bind_ofData?_of_current? {current : Option Quantity}
    (h : (Data.under fields name).current? = some current) :
    ((Data.object fields).valueAt? [name]).bind Quantity.ofData? = current := by
  rw [Data.valueAt?_object_cons]
  unfold Data.under at h
  cases hname : Fields.get? fields name with
  | none =>
    rw [hname] at h
    cases h
    rfl
  | some d =>
    rw [hname, Option.getD_some] at h
    cases d <;> cases h <;> rfl

theorem isIntegral_of_current? {d : Data} (hd : d.IsIntegral) {current : Option Quantity}
    (h : d.current? = some current) : ∀ q ∈ current, q.toNumber.IsIntegral := by
  intro q hq
  cases hd with
  | null =>
    cases h
    cases hq
  | boolean b =>
    cases h
    cases hq
    exact ⟨_, rfl⟩
  | integer n =>
    cases h
    cases hq
    exact ⟨n, rfl⟩
  | _ => cases h

/-! ## Going down a path -/

/-- **How a change goes down its path** when it succeeds: from level to level, and at the end it
writes the changed value. -/
inductive Writes (c : PropertyChange) :
    List String → List (String × Data) → List (String × Data) → Prop
  | last {fields : List (String × Data)} {name : String} {current : Option Quantity}
    {value : Quantity} (hcurrent : (Data.under fields name).current? = some current)
    (hvalue : c.mode.apply current c.value = .ok value) :
    Writes c [name] fields (Fields.set fields name value.toData)
  | deeper {fields inner out : List (String × Data)} {name : String} {rest : List String}
    (hlevel : (Data.under fields name).level? = some inner) (h : Writes c rest inner out) :
    Writes c (name :: rest) fields (Fields.set fields name (.object out))

theorem Writes.ne_nil (h : Writes c path fields out) : path ≠ [] := by
  cases h <;> exact List.cons_ne_nil _ _

/-- **A change that succeeds goes down its path.** -/
theorem writes_of_applyAt : ∀ {path : List String} {fields out : List (String × Data)},
    path ≠ [] → (Data.object fields).IsIntegral → c.applyAt path fields = .ok out →
      Writes c path fields out
  | [], _, _, hpath, _, _ => absurd rfl hpath
  | [name], fields, out, _, _, h => by
    rw [applyAt_singleton] at h
    cases hcurrent : (Data.under fields name).current? with
    | none =>
      rw [hcurrent] at h
      cases h
    | some current =>
      rw [hcurrent] at h
      obtain ⟨value, hvalue, rfl⟩ := Faulting.map_eq_ok.mp h
      cases hmode : c.mode.apply current c.value with
      | error fault =>
        rw [hmode] at hvalue
        cases hvalue
      | ok value' =>
        rw [hmode] at hvalue
        cases hvalue
        exact .last hcurrent hmode
  | name :: next :: rest, fields, out, _, hfields, h => by
    rw [applyAt_cons hfields (List.cons_ne_nil next rest)] at h
    cases hlevel : (Data.under fields name).level? with
    | none =>
      rw [hlevel] at h
      cases h
    | some inner =>
      rw [hlevel] at h
      obtain ⟨inner', hinner, rfl⟩ := Faulting.map_eq_ok.mp h
      exact .deeper hlevel (writes_of_applyAt (List.cons_ne_nil next rest)
        ((hfields.under name).level? hlevel) hinner)

/-- **At its path** a change leaves what its mode makes of the value there. -/
theorem Writes.valueAt?_path (h : Writes c path fields out) :
    ∃ value, c.mode.apply (((Data.object fields).valueAt? path).bind Quantity.ofData?) c.value =
      .ok value ∧ (Data.object out).valueAt? path = some value.toData := by
  induction h with
  | @last fields name current value hcurrent hvalue =>
    refine ⟨value, ?_, Data.valueAt?_set_self ..⟩
    rw [bind_ofData?_of_current? hcurrent]
    exact hvalue
  | @deeper fields inner out name rest hlevel h ih =>
    obtain ⟨value, hvalue, hout⟩ := ih
    refine ⟨value, ?_, ?_⟩
    · rw [Data.valueAt?_of_level? h.ne_nil hlevel]
      exact hvalue
    · rw [Data.valueAt?_set_self]
      exact hout

/-- **Beside its path** a change leaves everything as it is. -/
theorem Writes.valueAt?_of_apart (h : Writes c path fields out) : ∀ {other : List String},
    ¬ other <+: path → ¬ path <+: other →
      (Data.object out).valueAt? other = (Data.object fields).valueAt? other := by
  induction h with
  | @last fields name current value hcurrent hvalue =>
    intro other hother hpath
    cases other with
    | nil => exact absurd List.nil_prefix hother
    | cons first others =>
      have hne : first ≠ name := by
        rintro rfl
        exact hpath (List.cons_prefix_cons.mpr ⟨rfl, List.nil_prefix⟩)
      exact Data.valueAt?_set_of_ne hne ..
  | @deeper fields inner out name rest hlevel h ih =>
    intro other hother hpath
    cases other with
    | nil => exact absurd List.nil_prefix hother
    | cons first others =>
      by_cases hne : first = name
      · subst hne
        -- Past a common name the two paths are still apart, so `other` goes on there.
        have hothers : ¬ others <+: rest := fun hp => hother (List.cons_prefix_cons.mpr ⟨rfl, hp⟩)
        have hrest : ¬ rest <+: others := fun hp => hpath (List.cons_prefix_cons.mpr ⟨rfl, hp⟩)
        have hnil : others ≠ [] := by
          rintro rfl
          exact hothers List.nil_prefix
        rw [Data.valueAt?_set_self, Data.valueAt?_of_level? hnil hlevel]
        exact ih hothers hrest
      · exact Data.valueAt?_set_of_ne hne ..

/-- **Above its end** a change leaves objects all along its path. -/
theorem Writes.valueAt?_before (h : Writes c path fields out) : ∀ {before : List String},
    before <+: path → before ≠ path →
      ∃ level, (Data.object out).valueAt? before = some (.object level) := by
  induction h with
  | @last fields name current value hcurrent hvalue =>
    intro before hbefore hne
    cases before with
    | nil => exact ⟨_, rfl⟩
    | cons first others =>
      obtain ⟨rfl, hothers⟩ := List.cons_prefix_cons.mp hbefore
      rw [List.prefix_nil.mp hothers] at hne
      exact absurd rfl hne
  | @deeper fields inner out name rest hlevel h ih =>
    intro before hbefore hne
    cases before with
    | nil => exact ⟨_, rfl⟩
    | cons first others =>
      obtain ⟨rfl, hothers⟩ := List.cons_prefix_cons.mp hbefore
      rw [Data.valueAt?_set_self]
      exact ih hothers fun heq => hne (by rw [heq])

/-! ## What is in the way -/

theorem not_stopsAt_singleton {part : String} : ¬ (Data.object fields).StopsAt [name] part := by
  rintro ⟨before, hbefore, hne, -⟩
  refine hne (hbefore.eq_of_length ?_)
  have := hbefore.length_le
  simp only [List.length_append, List.length_singleton] at this ⊢
  omega

/-- **A value is in the way** at the first step, or further down. -/
theorem stopsAt_cons_iff (hfields : (Data.object fields).IsIntegral) (hrest : rest ≠ [])
    {part : String} : (Data.object fields).StopsAt (name :: rest) part ↔
      match (Data.under fields name).level? with
      | none => part = name
      | some inner => (Data.object inner).StopsAt rest part := by
  have hunder := (hfields.under name).level?_eq_none_iff
  constructor
  · rintro ⟨before, hbefore, hne, d, hd, hnull, hnone⟩
    cases before with
    | nil =>
      obtain ⟨rfl, -⟩ := List.cons_prefix_cons.mp hbefore
      rw [(Data.valueAt?_singleton_eq_some_iff hnull).mp hd] at hunder ⊢
      rw [hunder.mpr ⟨hnull, hnone⟩]
    | cons first before =>
      obtain ⟨rfl, hinner⟩ := List.cons_prefix_cons.mp hbefore
      have hnil : before ++ [part] ≠ [] := by simp
      rw [List.cons_append] at hd hne
      cases hlevel : (Data.under fields first).level? with
      | none =>
        -- Behind a value without fields nothing stands, neither in the way nor at the end.
        rw [hfields.valueAt?_of_no_level hnil hlevel] at hd
        cases hd
      | some inner =>
        rw [Data.valueAt?_of_level? hnil hlevel] at hd
        exact ⟨before, hinner, fun heq => hne (by rw [heq]), d, hd, hnull, hnone⟩
  · intro h
    cases hlevel : (Data.under fields name).level? with
    | none =>
      rw [hlevel] at h
      obtain rfl : part = name := h
      obtain ⟨hnull, hnone⟩ := hunder.mp hlevel
      refine ⟨[], List.cons_prefix_cons.mpr ⟨rfl, List.nil_prefix⟩, ?_, _,
        (Data.valueAt?_singleton_eq_some_iff hnull).mpr rfl, hnull, hnone⟩
      simpa using hrest.symm
    | some inner =>
      rw [hlevel] at h
      obtain ⟨before, hbefore, hne, d, hd, hvalue⟩ := h
      refine ⟨name :: before, List.cons_prefix_cons.mpr ⟨rfl, hbefore⟩, by simpa using hne, d, ?_,
        hvalue⟩
      rw [List.cons_append, Data.valueAt?_of_level? (by simp) hlevel]
      exact hd

theorem oddAt_singleton_iff :
    (Data.object fields).OddAt [name] ↔ (Data.under fields name).current? = none := by
  rw [current?_eq_none_iff]
  constructor
  · rintro ⟨d, hd, hnull, hodd⟩
    rw [(Data.valueAt?_singleton_eq_some_iff hnull).mp hd]
    exact ⟨hnull, hodd⟩
  · rintro ⟨hnull, hodd⟩
    exact ⟨_, (Data.valueAt?_singleton_eq_some_iff hnull).mpr rfl, hnull, hodd⟩

/-- **What a change fails with.** -/
theorem applyAt_eq_error_iff (hvalue : c.value.IsIntegral) {fault : Fault} :
    ∀ {path : List String} {fields : List (String × Data)}, path ≠ [] →
      (Data.object fields).IsIntegral → (c.applyAt path fields = .error fault ↔
        (fault = .notNumeric c.path ∧ (Data.object fields).OddAt path) ∨
          ∃ part, fault = .crossesValue c.path part ∧ (Data.object fields).StopsAt path part)
  | [], _, hpath, _ => absurd rfl hpath
  | [name], fields, _, hfields => by
    rw [applyAt_singleton, oddAt_singleton_iff]
    simp only [not_stopsAt_singleton, and_false, exists_false, or_false]
    cases hcurrent : (Data.under fields name).current? with
    | none => simp [eq_comm]
    | some current =>
      obtain ⟨value, hmode⟩ := exists_modeApply c.mode
        (isIntegral_of_current? (hfields.under name) hcurrent) hvalue
      simp [hmode, Fault.ofArithmetic, Except.map]
  | name :: next :: rest, fields, _, hfields => by
    have hrest : next :: rest ≠ [] := List.cons_ne_nil next rest
    rw [applyAt_cons hfields hrest]
    simp only [stopsAt_cons_iff hfields hrest]
    cases hlevel : (Data.under fields name).level? with
    | none =>
      simp [Data.OddAt, hfields.valueAt?_of_no_level hrest hlevel, eq_comm]
    | some inner =>
      simp only [Data.OddAt, Data.valueAt?_of_level? hrest hlevel, Faulting.map_eq_error]
      exact applyAt_eq_error_iff hvalue hrest ((hfields.under name).level? hlevel)

/-! ## The change -/

/-- Something before the end of a path is in the way if some proper part of the path leads to a
value without fields. -/
theorem exists_stopsAt_iff : (∃ part, (Data.object fields).StopsAt path part) ↔
    ∃ before, before <+: path ∧ before ≠ path ∧
      ∃ d, (Data.object fields).valueAt? before = some d ∧ d ≠ .null ∧ d.fields? = none := by
  constructor
  · rintro ⟨part, before, h⟩
    exact ⟨before ++ [part], h⟩
  · rintro ⟨before, hbefore, hne, d, hd, hnull, hnone⟩
    rcases List.eq_nil_or_concat before with rfl | ⟨start, part, rfl⟩
    · cases hd
      cases hnone
    · rw [List.concat_eq_append] at *
      exact ⟨part, start, hbefore, hne, d, hd, hnull, hnone⟩

/-- **Writing a property touches only its path.** A change by an integer of JSON data in which every
number is an integer fails exactly if, before the end of its path, there is a value other than null
that is no object, or at its end one other than null that is neither a number nor a truth value; and
it fails for these reasons only. Otherwise it leaves at its path what its mode makes of the value
there, at every path beside it what was there, and above its end objects only. -/
theorem apply_touches_path {data : List (String × Data)}
    (hdata : (Data.object data).IsIntegral) (hvalue : c.value.IsIntegral) :
    ((∃ fault, c.apply data = .error fault) ↔
      (∃ before, before <+: Text.splitAt '.' c.path ∧ before ≠ Text.splitAt '.' c.path ∧
        ∃ d, (Data.object data).valueAt? before = some d ∧ d ≠ .null ∧ d.fields? = none) ∨
      ∃ d, (Data.object data).valueAt? (Text.splitAt '.' c.path) = some d ∧ d ≠ .null ∧
        Quantity.ofData? d = none) ∧
    (∀ fault, c.apply data = .error fault →
      fault = .notNumeric c.path ∨ ∃ part, fault = .crossesValue c.path part) ∧
    ∀ out, c.apply data = .ok out →
      (∃ value, (Data.object out).valueAt? (Text.splitAt '.' c.path) = some value.toData ∧
        c.mode.apply (((Data.object data).valueAt? (Text.splitAt '.' c.path)).bind
          Quantity.ofData?) c.value = .ok value) ∧
      (∀ other, ¬ other <+: Text.splitAt '.' c.path → ¬ Text.splitAt '.' c.path <+: other →
        (Data.object out).valueAt? other = (Data.object data).valueAt? other) ∧
      ∀ before, before <+: Text.splitAt '.' c.path → before ≠ Text.splitAt '.' c.path →
        ∃ level, (Data.object out).valueAt? before = some (.object level) := by
  have hpath : Text.splitAt '.' c.path ≠ [] := by simp [Text.splitAt, List.splitOn_ne_nil]
  have hfails (fault : Fault) : c.apply data = .error fault ↔ _ :=
    applyAt_eq_error_iff hvalue hpath hdata
  refine ⟨?_, ?_, fun out hout => ?_⟩
  · rw [← exists_stopsAt_iff]
    constructor
    · rintro ⟨fault, hfault⟩
      rcases (hfails _).mp hfault with ⟨-, hodd⟩ | ⟨part, -, hstops⟩
      · exact .inr hodd
      · exact .inl ⟨part, hstops⟩
    · rintro (⟨part, hstops⟩ | hodd)
      · exact ⟨_, (hfails _).mpr (.inr ⟨part, rfl, hstops⟩)⟩
      · exact ⟨_, (hfails _).mpr (.inl ⟨rfl, hodd⟩)⟩
  · intro fault hfault
    rcases (hfails _).mp hfault with ⟨hfault, -⟩ | ⟨part, hfault, -⟩
    · exact .inl hfault
    · exact .inr ⟨part, hfault⟩
  · have hwrites := writes_of_applyAt hpath hdata hout
    obtain ⟨value, hmode, hat⟩ := hwrites.valueAt?_path
    exact ⟨⟨value, hat, hmode⟩, fun other => hwrites.valueAt?_of_apart,
      fun before => hwrites.valueAt?_before⟩

/-- A level that is null is made, and the number and the text beside the path stay. -/
theorem apply_touches_path_of_null_level :
    let c : PropertyChange := ⟨"a.b.c", .add, .integer 2, .applyEffects, 100, "Test", none⟩
    let data : List (String × Data) :=
      [("a", .object [("b", .null), ("n", .number (.integer 3))]), ("x", .text "t")]
    (Data.object data).IsIntegral ∧ c.value.IsIntegral ∧
      ∃ out, c.apply data = .ok out ∧
        (Data.object out).valueAt? ["a", "b", "c"] = some (.number (.integer 2)) ∧
        (Data.object out).valueAt? ["a", "n"] = some (.number (.integer 3)) ∧
        ∃ level, (Data.object out).valueAt? ["a", "b"] = some (.object level) := by
  intro c data
  have hdata : (Data.object data).IsIntegral := by
    refine .object fun field hfield => ?_
    rcases List.mem_pair.mp hfield with rfl | rfl
    · refine .object fun inner hinner => ?_
      rcases List.mem_pair.mp hinner with rfl | rfl
      · exact .null
      · exact .integer 3
    · exact .text "t"
  have hvalue : c.value.IsIntegral := ⟨2, rfl⟩
  have hsplit : Text.splitAt '.' c.path = ["a", "b", "c"] := by decide +kernel
  obtain ⟨-, -, hwritten⟩ := apply_touches_path hdata hvalue
  rw [hsplit] at hwritten
  obtain ⟨out, hout⟩ : ∃ out, c.apply data = .ok out := by
    unfold apply
    rw [hsplit]
    exact ⟨_, rfl⟩
  obtain ⟨⟨value, hat, hmode⟩, hbeside, habove⟩ := hwritten out hout
  cases hmode
  refine ⟨hdata, hvalue, out, hout, hat, ?_, habove ["a", "b"] (by decide) (by decide)⟩
  exact hbeside ["a", "n"] (by decide) (by decide)

end PropertyChange

end RuleElements
