import Mathlib.Order.Lattice
import RuleElements.Proofs.Stacking.Total

/-!
# What one more modifier changes

`Stacking.wouldStack` looks only at the modifiers that share type and sign with a new one. This
module compares that look with counting the whole list anew, the new modifier at its end.

Main definitions:
* `Stacking.gain`: by how much a new modifier changes the total.

Results:
* `highestBonus_lt_iff`, `lt_lowestPenalty_iff`: what it takes to outdo all of a type.
* `reference_concat`: the total changes by the gain.
* `wouldStack_eq_true_iff`: the look finds out whether there is a gain.
-/

namespace RuleElements.Stacking

variable {new : Modifier} {existing : List Modifier}

/-! ## Outdoing a type -/

theorem highestBonus_nonneg (type : ModifierType) (ms : List Modifier) :
    0 ≤ highestBonus type ms :=
  max_eq_right_iff.mp (bonusSide.outer_zero (pointsOf type ms))

theorem lowestPenalty_nonpos (type : ModifierType) (ms : List Modifier) :
    lowestPenalty type ms ≤ 0 :=
  min_eq_right_iff.mp (penaltySide.outer_zero (pointsOf type ms))

theorem foldr_max_lt_iff {bound : Int} : ∀ {xs : List Int},
    xs.foldr max 0 < bound ↔ 0 < bound ∧ ∀ x ∈ xs, x < bound
  | [] => by simp
  | x :: xs => by
    rw [List.foldr_cons, max_lt_iff, foldr_max_lt_iff, List.forall_mem_cons]
    tauto

theorem lt_foldr_min_iff {bound : Int} : ∀ {xs : List Int},
    bound < xs.foldr min 0 ↔ bound < 0 ∧ ∀ x ∈ xs, bound < x
  | [] => by simp
  | x :: xs => by
    rw [List.foldr_cons, lt_min_iff, lt_foldr_min_iff, List.forall_mem_cons]
    tauto

theorem forall_mem_pointsOf {type : ModifierType} {ms : List Modifier} {P : Int → Prop} :
    (∀ n ∈ pointsOf type ms, P n) ↔ ∀ m ∈ ms, m.type = type → P m.points := by
  unfold pointsOf
  simp only [List.forall_mem_map, List.mem_filter, beq_iff_eq, and_imp]

/-- A positive integer is above the highest bonus of a type if it is above each bonus. -/
theorem highestBonus_lt_iff {type : ModifierType} {ms : List Modifier} {bound : Int}
    (hbound : 0 < bound) : highestBonus type ms < bound ↔
      ∀ m ∈ ms, m.type = type → 0 < m.points → m.points < bound := by
  unfold highestBonus
  rw [foldr_max_lt_iff, forall_mem_pointsOf]
  constructor
  · rintro ⟨-, h⟩ m hm htype -
    exact h m hm htype
  · intro h
    refine ⟨hbound, fun m hm htype => ?_⟩
    by_cases hpos : 0 < m.points
    · exact h m hm htype hpos
    · omega

/-- A negative integer is below the lowest penalty of a type if it is below each penalty. -/
theorem lt_lowestPenalty_iff {type : ModifierType} {ms : List Modifier} {bound : Int}
    (hbound : bound < 0) : bound < lowestPenalty type ms ↔
      ∀ m ∈ ms, m.type = type → m.points < 0 → bound < m.points := by
  unfold lowestPenalty
  rw [lt_foldr_min_iff, forall_mem_pointsOf]
  constructor
  · rintro ⟨-, h⟩ m hm htype -
    exact h m hm htype
  · intro h
    refine ⟨hbound, fun m hm htype => ?_⟩
    by_cases hneg : m.points < 0
    · exact h m hm htype hneg
    · omega

/-! ## The gain -/

/-- What the modifiers of a type come to. -/
def worth (type : ModifierType) (ms : List Modifier) : Int :=
  if type.isExclusive then highestBonus type ms + lowestPenalty type ms
  else (pointsOf type ms).sum

theorem reference_eq_worth (ms : List Modifier) : reference ms =
    worth .untyped ms + worth .status ms + worth .circumstance ms + worth .item ms := by
  simp only [reference, worth, ModifierType.isExclusive, List.map_cons, List.map_nil,
    List.sum_cons, List.sum_nil, if_true, Bool.false_eq_true, if_false]
  ring

/-- **By how much a new modifier changes the total**: an untyped one by its value, any other one by
as much as it is above the highest bonus or below the lowest penalty of its type. -/
def gain (new : Modifier) (existing : List Modifier) : Int :=
  if new.type.isExclusive then
    (max new.points (highestBonus new.type existing) - highestBonus new.type existing) +
      (min new.points (lowestPenalty new.type existing) - lowestPenalty new.type existing)
  else new.points

/-- The values of the type of a new modifier have its value at the end. -/
theorem pointsOf_concat_self : pointsOf new.type (existing ++ [new]) =
    pointsOf new.type existing ++ [new.points] := by
  rw [pointsOf_append]
  simp [pointsOf]

/-- The values of the other types stay. -/
theorem pointsOf_concat_of_ne {type : ModifierType} (h : new.type ≠ type) :
    pointsOf type (existing ++ [new]) = pointsOf type existing := by
  rw [pointsOf_append]
  simp [pointsOf, h]

/-- What a type comes to changes by the gain if the new modifier is of this type. -/
theorem worth_concat (type : ModifierType) : worth type (existing ++ [new]) =
    worth type existing + if new.type = type then gain new existing else 0 := by
  by_cases h : new.type = type
  · subst h
    unfold worth gain highestBonus lowestPenalty
    rw [if_pos rfl, pointsOf_concat_self, bonusSide.foldr_concat, penaltySide.foldr_concat,
      List.sum_append]
    split
    · omega
    · simp
  · unfold worth highestBonus lowestPenalty
    rw [if_neg h, pointsOf_concat_of_ne h, add_zero]

/-- **The total changes by the gain.** -/
theorem reference_concat :
    reference (existing ++ [new]) = reference existing + gain new existing := by
  rw [reference_eq_worth, reference_eq_worth]
  simp only [worth_concat]
  generalize gain new existing = gained
  cases new.type <;> simp only [reduceCtorEq, if_true, if_false] <;> omega

/-! ## The look -/

/-- A typed bonus gains if it is above every bonus of its type, a typed penalty if it is below every
penalty. -/
theorem gain_ne_zero_iff (htype : new.type.isExclusive = true) (hpoints : new.points ≠ 0) :
    gain new existing ≠ 0 ↔
      if 0 < new.points then
        ∀ m ∈ existing, m.type = new.type → 0 < m.points → m.points < new.points
      else ∀ m ∈ existing, m.type = new.type → m.points < 0 → new.points < m.points := by
  have hbonus := highestBonus_nonneg new.type existing
  have hpenalty := lowestPenalty_nonpos new.type existing
  unfold gain
  rw [if_pos htype]
  by_cases hpos : 0 < new.points
  · rw [if_pos hpos, ← highestBonus_lt_iff hpos]
    omega
  · rw [if_neg hpos, ← lt_lowestPenalty_iff (by omega)]
    omega

/-- A look at the modifiers of a type on one side of zero. -/
theorem all_ofSign_iff {type : ModifierType} {sign outdone : Modifier → Bool} :
    ((existing.filter (·.type == type)).filter sign).all outdone = true ↔
      ∀ m ∈ existing, m.type = type → sign m = true → outdone m = true := by
  simp only [List.all_eq_true, List.mem_filter, beq_iff_eq, and_imp]

/-- **The look finds out whether there is a gain.** -/
theorem wouldStack_eq_true_iff (hnew : new.IsIntegral) (hexisting : ∀ m ∈ existing, m.IsIntegral) :
    wouldStack new existing = true ↔ gain new existing ≠ 0 := by
  by_cases hzero : new.points = 0
  · have hbonus := highestBonus_nonneg new.type existing
    have hpenalty := lowestPenalty_nonpos new.type existing
    have hgain : gain new existing = 0 := by
      unfold gain
      rw [hzero]
      split <;> omega
    simp [wouldStack, hnew.isZero_eq, hzero, hgain]
  by_cases htype : new.type.isExclusive = true
  · have hlook : wouldStack new existing = true ↔
        if 0 < new.points then
          ∀ m ∈ existing, m.type = new.type → m.isBonus = true → m.value.lt new.value = true
        else
          ∀ m ∈ existing, m.type = new.type → m.isPenalty = true →
            new.value.lt m.value = true := by
      simp only [wouldStack, hnew.isZero_eq, hzero, htype, hnew.isBonus_eq, decide_eq_true_eq,
        if_false, Bool.not_true, Bool.false_eq_true]
      split <;> exact all_ofSign_iff
    rw [hlook, gain_ne_zero_iff htype hzero]
    split
    · refine forall₂_congr fun m hm => ?_
      rw [(hexisting m hm).isBonus_eq, (hexisting m hm).value_eq, hnew.value_eq, Number.lt_integer,
        decide_eq_true_eq, decide_eq_true_eq]
    · refine forall₂_congr fun m hm => ?_
      rw [(hexisting m hm).isPenalty_eq, (hexisting m hm).value_eq, hnew.value_eq,
        Number.lt_integer, decide_eq_true_eq, decide_eq_true_eq]
  · simp [wouldStack, gain, hnew.isZero_eq, htype, hzero]

/-- **The look predicts the total.** A new modifier with an integer value would stack with others
of integer values exactly if the total of the list with the new one at its end is another one. -/
theorem wouldStack_iff_total_changes (hnew : new.IsIntegral)
    (hexisting : ∀ m ∈ existing, m.IsIntegral) :
    ∃ before after : Int, totalOf existing = .ok (.integer before) ∧
      totalOf (existing ++ [new]) = .ok (.integer after) ∧
        (wouldStack new existing = true ↔ after ≠ before) := by
  have hall : ∀ m ∈ existing ++ [new], m.IsIntegral :=
    List.forall_mem_append.mpr ⟨hexisting, List.forall_mem_singleton.mpr hnew⟩
  refine ⟨reference existing, reference existing + gain new existing,
    totalOf_eq_reference hexisting, ?_, ?_⟩
  · rw [totalOf_eq_reference hall, reference_concat]
  · rw [wouldStack_eq_true_iff hnew hexisting]
    omega

/-- A circumstance bonus beside a penalty of its type and a higher status bonus, and a status bonus
that is no higher. -/
theorem wouldStack_iff_total_changes_of_shield :
    let m (label : String) (type : ModifierType) (n : Int) : Modifier :=
      { label, source := "Test", value := .integer n, type, selector := "ac" }
    let existing := [m "Bless" .status 2, m "Off-Guard" .circumstance (-2)]
    (wouldStack (m "Shield" .circumstance 1) existing = true ∧
      totalOf (existing ++ [m "Shield" .circumstance 1]) ≠ totalOf existing) ∧
    (wouldStack (m "Aid" .status 2) existing = false ∧
      totalOf (existing ++ [m "Aid" .status 2]) = totalOf existing) := by
  intro m existing
  have hexisting : ∀ x ∈ existing, x.IsIntegral := by
    intro x hx
    simp only [existing, List.mem_cons, List.not_mem_nil, or_false] at hx
    rcases hx with rfl | rfl <;> exact ⟨_, rfl⟩
  have hshield : (m "Shield" .circumstance 1).IsIntegral := ⟨1, rfl⟩
  have haid : (m "Aid" .status 2).IsIntegral := ⟨2, rfl⟩
  obtain ⟨before, after, hbefore, hafter, hyes⟩ := wouldStack_iff_total_changes hshield hexisting
  obtain ⟨before', after', hbefore', hafter', hchange⟩ :=
    wouldStack_iff_total_changes haid hexisting
  have hno : wouldStack (m "Aid" .status 2) existing = false := rfl
  refine ⟨⟨rfl, ?_⟩, hno, ?_⟩
  · rw [hbefore, hafter]
    simpa using hyes.mp rfl
  · rw [hbefore', hafter']
    by_contra hne
    have : after' ≠ before' := fun h => hne (by rw [h])
    rw [hchange.mpr this] at hno
    cases hno

end RuleElements.Stacking
