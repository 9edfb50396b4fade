import RuleElements.Proofs.Character.Property
import RuleElements.Proofs.Commuting
import RuleElements.Proofs.Data.Alike

/-!
# Changes of different properties commute

Two changes whose paths part ways may be made in either order: where the paths part, each of them
writes under a name of its own, and above that place both go through the same levels, which either
of them makes if they are missing. So a list of changes may be given in any order in which those
that are made at one time are of properties apart.

Main definitions:
* `PropertyChange.rewrite`: what a change makes of the value under the first name of its path.

Results:
* `applyAt_eq_rewrite`: a change rewrites the value under one name.
* `applyAt_agree`: a change respects data that are the same as mappings.
* `applyAt_comm`: changes at paths that part ways commute.
* `applyAll_perm`: changes in another order.

Out of scope, as for a single change: objects that stand in two places at once, and bounds on their
depth.
-/

namespace RuleElements.PropertyChange

open Faulting Data

/-- **What a change makes of the value under a name**, with the `rest` of its path to go. -/
def rewrite (c : PropertyChange) (name : String) : List String → Data → Except Fault Data
  | [], d =>
    match d.current? with
    | none => .error (.notNumeric c.path)
    | some current => (Fault.ofArithmetic (c.mode.apply current c.value)).map Quantity.toData
  | next :: rest, d =>
    match d.inside? with
    | none => .error (.crossesValue c.path name)
    | some inner => (c.applyAt (next :: rest) inner).map d.refill

variable {a b c : PropertyChange} {fields fields' out : List (String × Data)} {d e : Data}
  {name : String} {path path' rest rest' : List String}

/-- **A change rewrites the value under the first name of its path.** -/
theorem applyAt_eq_rewrite (c : PropertyChange) (name : String) (rest : List String)
    (fields : List (String × Data)) : c.applyAt (name :: rest) fields =
      (c.rewrite name rest (under fields name)).map (Fields.set fields name) := by
  cases rest with
  | nil =>
    rw [applyAt_singleton, rewrite]
    cases (under fields name).current? with
    | none => rfl
    | some current => exact (map_map ..).symm
  | cons next rest =>
    rw [rewrite]
    conv_lhs => unfold applyAt
    unfold under
    cases (Fields.get? fields name).getD .null with
    | null => exact (map_map ..).symm
    | object inner => exact (map_map ..).symm
    | mapping entries => exact (map_map ..).symm
    | _ => rfl

/-- Before the end of its path a change goes on inside the value. -/
theorem rewrite_of_ne_nil (hrest : rest ≠ []) : c.rewrite name rest d =
    match d.inside? with
    | none => .error (.crossesValue c.path name)
    | some inner => (c.applyAt rest inner).map d.refill := by
  cases rest with
  | nil => exact absurd rfl hrest
  | cons next rest => rfl

/-! ## Changes of data that are the same as mappings -/

theorem current?_of_alike (h : Alike d e) : d.current? = e.current? := by
  cases h <;> rfl

theorem hasDistinctKeys_toData (q : Quantity) : q.toData.HasDistinctKeys := by
  cases q with
  | flag b => exact .boolean b
  | number n => exact .number n

/-- **A change respects data that are the same as mappings.** -/
theorem applyAt_agree (c : PropertyChange) : ∀ (path : List String)
    {fields fields' : List (String × Data)}, SameFields fields fields' →
      Agree SameFields (c.applyAt path fields) (c.applyAt path fields')
  | [], _, _, h => .ok h
  | [name], fields, fields', h => by
    rw [applyAt_eq_rewrite, applyAt_eq_rewrite, rewrite, rewrite,
      current?_of_alike (h.under name).alike]
    refine Agree.map (r := Same) ?_ fun hd => SameFields.set h hd name
    cases (under fields' name).current? with
    | none => exact .error _ _
    | some current =>
      dsimp only
      cases Fault.ofArithmetic (c.mode.apply current c.value) with
      | error fault => exact .error _ _
      | ok value => exact .ok (.refl (hasDistinctKeys_toData value))
  | name :: next :: rest, fields, fields', h => by
    rw [applyAt_eq_rewrite, applyAt_eq_rewrite, rewrite, rewrite]
    refine Agree.map (r := Same) ?_ fun hd => SameFields.set h hd name
    have hunder := h.under name
    rcases hunder.inside? with ⟨hin, hin'⟩ | ⟨inner, inner', hin, hin', hinner⟩
    · rw [hin, hin']
      exact .error _ _
    · rw [hin, hin']
      exact (applyAt_agree c (next :: rest) hinner).map fun hout => hunder.refill hout

theorem hasDistinctKeys_of_applyAt (hfields : (Data.object fields).HasDistinctKeys)
    (h : c.applyAt path fields = .ok out) : (Data.object out).HasDistinctKeys := by
  have hagree := applyAt_agree c path (.refl hfields)
  rw [h] at hagree
  cases hagree with
  | ok hout => exact hout.left

/-- A change keeps the names that are there. -/
theorem has_of_applyAt (h : c.applyAt path fields = .ok out) (hname : Fields.has fields name) :
    Fields.has out name := by
  cases path with
  | nil =>
    cases h
    exact hname
  | cons first rest =>
    rw [applyAt_eq_rewrite] at h
    obtain ⟨d, -, rfl⟩ := map_eq_ok.mp h
    exact Fields.has_set hname

theorem hasDistinctKeys_of_rewrite (hfields : (Data.object fields).HasDistinctKeys)
    (h : c.rewrite name rest (under fields name) = .ok d) : d.HasDistinctKeys := by
  have hout : c.applyAt (name :: rest) fields = .ok (Fields.set fields name d) := by
    rw [applyAt_eq_rewrite, h]
    rfl
  rw [← under_set_self fields name d]
  exact (hasDistinctKeys_of_applyAt hfields hout).under name

/-! ## Two changes -/

/-- A change under one name does not see what was written to another one. -/
theorem applyAt_set_of_ne {other : String} (hne : name ≠ other) : c.applyAt (name :: rest)
    (Fields.set fields other d) = (c.rewrite name rest (under fields name)).map
      (Fields.set (Fields.set fields other d) name) := by
  rw [applyAt_eq_rewrite, under_set_of_ne hne]

/-- **Two changes under one name** are made inside the value that stands there. -/
theorem applyAt_twice_inside (hfields : (Data.object fields).HasDistinctKeys) (hrest : rest ≠ [])
    (hrest' : rest' ≠ []) {inner : List (String × Data)}
    (hin : (under fields name).inside? = some inner) :
    Agree SameFields (a.applyAt (name :: rest) fields >>= b.applyAt (name :: rest'))
      ((a.applyAt rest inner >>= b.applyAt rest').map fun out =>
        Fields.set fields name ((under fields name).refill out)) := by
  have hunder := hfields.under name
  have hinner := hunder.inside? hin
  rw [applyAt_eq_rewrite, rewrite_of_ne_nil hrest, hin]
  dsimp only
  rw [map_map]
  cases hout : a.applyAt rest inner with
  | error fault => exact .error _ _
  | ok out =>
    have hdistinct := hasDistinctKeys_of_applyAt hinner hout
    obtain ⟨out', hin', hout'⟩ := inside?_refill hunder hdistinct hin fun _ => has_of_applyAt hout
    -- The second change finds what the first one left, and what it makes of that is filled in anew.
    show Agree SameFields (b.applyAt (name :: rest') (Fields.set fields name _))
      ((b.applyAt rest' out).map _)
    rw [applyAt_eq_rewrite, under_set_self, rewrite_of_ne_nil hrest', hin']
    dsimp only
    rw [map_map]
    rcases Agree.iff_exists.mp (applyAt_agree b rest' hout') with
      ⟨last', last, hlast', hlast, hsame⟩ | ⟨fault', fault, hfault', hfault⟩
    · rw [hlast', hlast]
      refine .ok ?_
      simp only [Fields.set_set]
      have hfilled : Same (((under fields name).refill out).refill last')
          (((under fields name).refill out).refill last) :=
        (Same.refl (hunder.refill hdistinct)).refill hsame
      have hlater : Same (((under fields name).refill out).refill last)
          ((under fields name).refill last) :=
        refill_refill hunder hdistinct hsame.right fun _ => has_of_applyAt hlast
      exact SameFields.set (.refl hfields) (hfilled.trans hlater) name
    · rw [hfault', hfault]
      exact .error _ _

/-- **Changes at paths that part ways commute.** -/
theorem applyAt_comm (a b : PropertyChange) : ∀ {path path' : List String}, ¬ path <+: path' →
    ¬ path' <+: path → ∀ {fields : List (String × Data)}, (Data.object fields).HasDistinctKeys →
      Agree SameFields (a.applyAt path fields >>= b.applyAt path')
        (b.applyAt path' fields >>= a.applyAt path)
  | [], _, h, _, _, _ => absurd List.nil_prefix h
  | _ :: _, [], _, h, _, _ => absurd List.nil_prefix h
  | name :: rest, name' :: rest', h, h', fields, hfields => by
    by_cases hname : name = name'
    · obtain rfl := hname
      -- Both go on inside the same value, and part ways there.
      have hapart : ¬ rest <+: rest' := fun hp => h (List.cons_prefix_cons.mpr ⟨rfl, hp⟩)
      have hapart' : ¬ rest' <+: rest := fun hp => h' (List.cons_prefix_cons.mpr ⟨rfl, hp⟩)
      have hrest : rest ≠ [] := fun heq => hapart (heq ▸ List.nil_prefix)
      have hrest' : rest' ≠ [] := fun heq => hapart' (heq ▸ List.nil_prefix)
      cases hin : (under fields name).inside? with
      | none =>
        rw [applyAt_eq_rewrite, applyAt_eq_rewrite, rewrite_of_ne_nil hrest,
          rewrite_of_ne_nil hrest', hin]
        exact .error _ _
      | some inner =>
        have hunder := hfields.under name
        have hcomm := applyAt_comm a b hapart hapart' (hunder.inside? hin)
        refine (applyAt_twice_inside hfields hrest hrest' hin).trans Same.trans ?_
        refine Agree.trans Same.trans (hcomm.map fun hout => ?_)
          ((applyAt_twice_inside hfields hrest' hrest hin).symm Same.symm)
        exact SameFields.set (.refl hfields) ((Same.refl hunder).refill hout) name
    · -- Each rewrites the value under its own name, whatever stands under the other one.
      rw [applyAt_eq_rewrite, applyAt_eq_rewrite b]
      cases ha : a.rewrite name rest (under fields name) with
      | error fault =>
        cases hb : b.rewrite name' rest' (under fields name') with
        | error fault' => exact .error _ _
        | ok e =>
          show Agree _ (.error fault) (a.applyAt (name :: rest) (Fields.set fields name' e))
          rw [applyAt_set_of_ne hname, ha]
          exact .error _ _
      | ok d =>
        show Agree _ (b.applyAt (name' :: rest') (Fields.set fields name d)) _
        rw [applyAt_set_of_ne (Ne.symm hname)]
        cases hb : b.rewrite name' rest' (under fields name') with
        | error fault' => exact .error _ _
        | ok e =>
          show Agree _ _ (a.applyAt (name :: rest) (Fields.set fields name' e))
          rw [applyAt_set_of_ne hname, ha]
          exact .ok (same_set_set hname hfields (hasDistinctKeys_of_rewrite hfields ha)
            (hasDistinctKeys_of_rewrite hfields hb))

/-! ## Lists of changes -/

/-- Changes that neither of which must be made first have one phase and one priority. -/
theorem same_time_of_notAfter (h : notAfter a b) (h' : notAfter b a) :
    a.phase = b.phase ∧ a.priority = b.priority := by
  have horder {p q : Phase} : p.order = q.order → p = q := by
    cases p <;> cases q <;> decide
  simp only [notAfter, Bool.or_eq_true, Bool.and_eq_true, decide_eq_true_eq, beq_iff_eq] at h h'
  exact ⟨horder (by omega), by omega⟩

theorem sorted_pairwise (changes : List PropertyChange) :
    (sorted changes).Pairwise fun a b => notAfter a b = true := by
  refine List.pairwise_mergeSort (fun a b c hab hbc => ?_) (fun a b => ?_) changes
  · simp only [notAfter, Bool.or_eq_true, Bool.and_eq_true, decide_eq_true_eq, beq_iff_eq]
      at hab hbc ⊢
    omega
  · simp only [notAfter, Bool.or_eq_true, Bool.and_eq_true, decide_eq_true_eq, beq_iff_eq]
    omega

/-- **Changes may be given in any order**, if those with one phase and priority are of properties
whose paths part ways: then the changes have the same outcome as a mapping, or fail in both orders.
-/
theorem applyAll_perm {data : List (String × Data)} (hdata : (Data.object data).HasDistinctKeys)
    {changes changes' : List PropertyChange} (hperm : changes.Perm changes')
    (happart : changes.Pairwise fun a b => a.phase = b.phase → a.priority = b.priority →
      ¬ Text.splitAt '.' a.path <+: Text.splitAt '.' b.path ∧
        ¬ Text.splitAt '.' b.path <+: Text.splitAt '.' a.path) :
    (∃ out out', applyAll data changes = .ok out ∧ applyAll data changes' = .ok out' ∧
      SameFields out out') ∨
    ∃ fault fault', applyAll data changes = .error fault ∧
      applyAll data changes' = .error fault' := by
  have hrespects : Respects SameFields PropertyChange.apply :=
    ⟨Same.symm, Same.trans, fun h c => applyAt_agree c _ h⟩
  have hsorted : (sorted changes).Pairwise fun a b => notAfter a b = true → notAfter b a = true →
      Faulting.Commute SameFields PropertyChange.apply a b := by
    refine ((List.mergeSort_perm changes notAfter).pairwise_iff fun {a b} hab => ?_).mpr
      (happart.imp fun {a b} hab h h' => ?_)
    · exact fun h h' => Faulting.Commute.symm hrespects (hab h' h)
    · obtain ⟨hphase, hpriority⟩ := same_time_of_notAfter h h'
      obtain ⟨hpath, hpath'⟩ := hab hphase hpriority
      exact fun fields hfields => applyAt_comm a b hpath hpath' hfields.left
  have hsame : (sorted changes).Perm (sorted changes') :=
    (List.mergeSort_perm changes notAfter).trans
      (hperm.trans (List.mergeSort_perm changes' notAfter).symm)
  exact Agree.iff_exists.mp (foldlM_agree_of_perm hrespects hsame (sorted_pairwise changes)
    (sorted_pairwise changes') hsorted (Same.refl hdata))

/-- Two changes that both make the level above their properties: its names stand in the order in
which the changes were made. -/
theorem applyAll_perm_of_new_level :
    let first : PropertyChange := ⟨"a.x", .add, .integer 1, .applyEffects, 100, "Test", none⟩
    let second : PropertyChange := ⟨"a.y", .override, .integer 2, .applyEffects, 100, "Test", none⟩
    (Data.object []).HasDistinctKeys ∧ [first, second].Perm [second, first] ∧
      ∃ out out', applyAll [] [first, second] = .ok out ∧ applyAll [] [second, first] = .ok out' ∧
        SameFields out out' := by
  intro first second
  have hdata : (Data.object []).HasDistinctKeys := .object List.nodup_nil (by simp)
  have hperm : [first, second].Perm [second, first] := List.Perm.swap second first []
  have hfirst : Text.splitAt '.' first.path = ["a", "x"] := by decide +kernel
  have hsecond : Text.splitAt '.' second.path = ["a", "y"] := by decide +kernel
  have hsorted : sorted [first, second] = [first, second] :=
    List.mergeSort_of_pairwise (List.pairwise_pair.mpr rfl)
  have hdone : applyAll [] [first, second] =
      .ok [("a", .object [("x", .number (.integer 1)), ("y", .number (.integer 2))])] := by
    rw [applyAll, hsorted]
    simp only [List.foldlM_cons, apply, hfirst, hsecond]
    rfl
  refine ⟨hdata, hperm, Or.resolve_right
    (applyAll_perm hdata hperm (List.pairwise_pair.mpr fun _ _ => ?_)) ?_⟩
  · rw [hfirst, hsecond]
    decide
  · rintro ⟨fault, -, hfault, -⟩
    rw [hdone] at hfault
    cases hfault

end RuleElements.PropertyChange
