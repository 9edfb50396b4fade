import Mathlib.Algebra.BigOperators.Group.List.Basic
import Mathlib.Data.List.Nodup
import Mathlib.Tactic.Ring
import RuleElements.Proofs.Stacking.Side

/-!
# What a total comes to

For modifiers with integer values, the total of `Stacking.total` is a sum that neither places nor
order have a part in: all untyped values, and for every other type the highest bonus and the lowest
penalty. The groups by type, in the order in which types first occur, drop out.

Main definitions:
* `Modifier.points`: the value of a modifier that is an integer.
* `Stacking.highestBonus`, `Stacking.lowestPenalty`: what counts of a type.
* `Stacking.reference`: the total by types.

Results:
* `Stacking.sum_pick`: what counts on one side of zero, type by type.
* `Stacking.totalOf_eq_reference`: the total is the reference.
* `Stacking.reference_perm`, `Stacking.reference_append`: order, zeros and copies of typed modifiers
  do not change it.
-/

namespace RuleElements

/-- The value of a modifier, if that is an integer. -/
def Modifier.points (m : Modifier) : Int :=
  match m.value with
  | .integer n => n
  | .real _ => 0

/-- A modifier whose value is an integer. -/
def Modifier.IsIntegral (m : Modifier) : Prop := ∃ n : Int, m.value = .integer n

theorem Modifier.IsIntegral.value_eq {m : Modifier} (h : m.IsIntegral) :
    m.value = .integer m.points := by
  obtain ⟨n, hn⟩ := h
  rw [points, hn]

theorem Modifier.IsIntegral.isBonus_eq {m : Modifier} (h : m.IsIntegral) :
    m.isBonus = decide (0 < m.points) := by
  unfold isBonus
  rw [h.value_eq]
  rfl

theorem Modifier.IsIntegral.isPenalty_eq {m : Modifier} (h : m.IsIntegral) :
    m.isPenalty = decide (m.points < 0) := by
  unfold isPenalty
  rw [h.value_eq]
  rfl

theorem Modifier.IsIntegral.isZero_eq {m : Modifier} (h : m.IsIntegral) :
    m.value.isZero = decide (m.points = 0) := by
  rw [h.value_eq]
  rfl

/-- The value of a placed modifier, if that is an integer. -/
def Placed.points (m : Placed) : Int := m.modifier.points

theorem Placed.map_modifier_ofList (ms : List Modifier) :
    (Placed.ofList ms).map (·.modifier) = ms := by
  unfold ofList
  rw [List.map_map]
  exact List.zipIdx_map_fst 0 ms

namespace Stacking

/-! ## The reference -/

/-- The values of the modifiers of a type, in order. -/
def pointsOf (type : ModifierType) (ms : List Modifier) : List Int :=
  (ms.filter (·.type == type)).map (·.points)

/-- The largest positive value of a type, zero if there is none. -/
def highestBonus (type : ModifierType) (ms : List Modifier) : Int :=
  (pointsOf type ms).foldr max 0

/-- The smallest negative value of a type, zero if there is none. -/
def lowestPenalty (type : ModifierType) (ms : List Modifier) : Int :=
  (pointsOf type ms).foldr min 0

/-- **The total by types**: all untyped values, and of each other type the highest bonus and the
lowest penalty. -/
def reference (ms : List Modifier) : Int :=
  (pointsOf .untyped ms).sum +
    ([.status, .circumstance, .item].map fun type =>
      highestBonus type ms + lowestPenalty type ms).sum

theorem pointsOf_append (type : ModifierType) (ms ns : List Modifier) :
    pointsOf type (ms ++ ns) = pointsOf type ms ++ pointsOf type ns := by
  unfold pointsOf
  rw [List.filter_append, List.map_append]

/-! ## Types -/

/-- Without repetitions an item is listed once. -/
theorem nodup_eraseDups {α : Type} [BEq α] [LawfulBEq α] : ∀ xs : List α, xs.eraseDups.Nodup
  | [] => List.nodup_nil
  | x :: xs => by
    rw [List.eraseDups_cons]
    refine List.nodup_cons.mpr ⟨?_, nodup_eraseDups _⟩
    simp
termination_by xs => xs.length
decreasing_by exact Nat.lt_succ_of_le (List.length_filter_le _ xs)

/-- A sum over the types that occur is one over all types. -/
theorem sum_types (ms : List Placed) {f : ModifierType → Int}
    (absent : ∀ type, type ∉ types ms → f type = 0) :
    ((types ms).map f).sum = f .untyped + ([.status, .circumstance, .item].map f).sum := by
  have hperm : (types ms).Perm
      ([.untyped, .status, .circumstance, .item].filter (· ∈ types ms)) := by
    refine (List.perm_ext_iff_of_nodup (nodup_eraseDups _) (List.Nodup.filter _ (by decide))).mpr ?_
    intro type
    rw [List.mem_filter, decide_eq_true_eq]
    exact ⟨fun h => ⟨by cases type <;> decide, h⟩, And.right⟩
  have hdrop : ∀ l : List ModifierType, ((l.filter (· ∈ types ms)).map f).sum = (l.map f).sum := by
    intro l
    induction l with
    | nil => rfl
    | cons type rest ih =>
      by_cases h : type ∈ types ms
      · rw [List.filter_cons_of_pos (by simpa using h), List.map_cons, List.map_cons, List.sum_cons,
          List.sum_cons, ih]
      · rw [List.filter_cons_of_neg (by simpa using h), List.map_cons, List.sum_cons,
          absent type h, zero_add, ih]
  rw [(hperm.map f).sum_eq, hdrop]
  rfl

/-- A type that does not occur has no modifiers. -/
theorem ofType_of_not_mem {ms : List Placed} {type : ModifierType} (h : type ∉ types ms) :
    ofType ms type = [] := by
  unfold types at h
  rw [List.mem_eraseDups] at h
  refine List.filter_eq_nil_iff.mpr fun m hm hmtype => h ?_
  exact List.mem_map.mpr ⟨m, hm, eq_of_beq hmtype⟩

/-! ## One side of zero -/

section Side

variable {outdoes : Number → Number → Bool} {outer : Int → Int → Int} {on : Int → Bool}

/-- The better one of two modifiers has the outer value. -/
theorem better_points (side : Side outdoes outer on) {current next : Placed}
    (hc : current.modifier.IsIntegral) (hn : next.modifier.IsIntegral) :
    (better outdoes current next).modifier.IsIntegral ∧
      (better outdoes current next).points = outer current.points next.points := by
  have hchoose := side.choose current.points next.points
  unfold better
  unfold Placed.points at *
  rw [hc.value_eq, hn.value_eq]
  rw [← hchoose]
  split
  · exact ⟨hn, rfl⟩
  · exact ⟨hc, rfl⟩

/-- The best of some modifiers has the outermost value. -/
theorem foldl_better_points (side : Side outdoes outer on) : ∀ {rest : List Placed} {m : Placed},
    m.modifier.IsIntegral → (∀ n ∈ rest, n.modifier.IsIntegral) →
      (rest.foldl (better outdoes) m).points = (rest.map Placed.points).foldl outer m.points
  | [], _, _, _ => rfl
  | n :: rest, m, hm, hrest => by
    obtain ⟨hbetter, hpoints⟩ := better_points side hm (hrest n List.mem_cons_self)
    rw [List.foldl_cons, List.map_cons, List.foldl_cons, ← hpoints]
    exact foldl_better_points side hbetter fun x hx => hrest x (List.mem_cons_of_mem _ hx)

/-- **What counts of a type of which one modifier counts.** -/
theorem sum_best (side : Side outdoes outer on) {ms : List Placed}
    (hms : ∀ m ∈ ms, m.modifier.IsIntegral) (hon : ∀ m ∈ ms, on m.points = true) :
    ((best? outdoes ms).toList.map Placed.points).sum = (ms.map Placed.points).foldr outer 0 := by
  cases ms with
  | nil => rfl
  | cons m rest =>
    rw [List.map_cons, ← side.foldl_eq_foldr (hon m List.mem_cons_self)]
    rw [← foldl_better_points side (hms m List.mem_cons_self)
      fun n hn => hms n (List.mem_cons_of_mem _ hn)]
    simp [best?]

/-- What counts of a type among modifiers on one side. -/
theorem sum_counted (side : Side outdoes outer on) {type : ModifierType} {ms : List Placed}
    (hms : ∀ m ∈ ms, m.modifier.IsIntegral) (hon : ∀ m ∈ ms, on m.points = true) :
    ((counted outdoes type ms).map Placed.points).sum =
      if type.isExclusive then (ms.map Placed.points).foldr outer 0
      else (ms.map Placed.points).sum := by
  unfold counted
  split
  · exact sum_best side hms hon
  · rfl

/-- The values of a type on one side of zero. -/
theorem points_ofType_filter {ms : List Placed} {sign : Modifier → Bool}
    (hsign : ∀ m ∈ ms, sign m.modifier = on m.points) (type : ModifierType) :
    (ofType (ms.filter fun m => sign m.modifier) type).map Placed.points =
      (pointsOf type (ms.map (·.modifier))).filter on := by
  have hfilter : (ms.filter fun m => sign m.modifier) = ms.filter fun m => on m.points :=
    List.filter_congr hsign
  unfold ofType pointsOf
  rw [hfilter, List.filter_filter, List.filter_map, List.filter_map, List.filter_map, List.map_map,
    List.filter_filter]
  exact congrArg (List.map Placed.points) (List.filter_congr fun m _ => Bool.and_comm _ _)

/-- What counts among modifiers is what counts of each type. -/
theorem sum_pick_eq (outdoes : Number → Number → Bool) (ms : List Placed) :
    ((pick outdoes ms).map Placed.points).sum =
      ((types ms).map fun type =>
        ((counted outdoes type (ofType ms type)).map Placed.points).sum).sum := by
  unfold pick groups
  rw [List.map_flatMap, List.flatMap_map, List.flatMap_def, List.sum_flatten, List.map_map]
  rfl

/-- What counts of a type on one side of zero. -/
theorem sum_counted_ofType (side : Side outdoes outer on) {ms : List Placed}
    {sign : Modifier → Bool} (hms : ∀ m ∈ ms, m.modifier.IsIntegral)
    (hsign : ∀ m ∈ ms, sign m.modifier = on m.points) (type : ModifierType) :
    ((counted outdoes type (ofType (ms.filter fun m => sign m.modifier) type)).map
        Placed.points).sum =
      if type.isExclusive then (pointsOf type (ms.map (·.modifier))).foldr outer 0
      else ((pointsOf type (ms.map (·.modifier))).filter on).sum := by
  have hmem : ∀ m ∈ ofType (ms.filter fun m => sign m.modifier) type,
      m ∈ ms ∧ sign m.modifier = true := fun m hm =>
    List.mem_filter.mp (List.mem_filter.mp hm).1
  rw [sum_counted side (fun m hm => hms m (hmem m hm).1)
    (fun m hm => (hsign m (hmem m hm).1).symm.trans (hmem m hm).2)]
  rw [points_ofType_filter hsign, side.foldr_filter]

/-- **What counts on one side of zero**, type by type. -/
theorem sum_pick (side : Side outdoes outer on) {ms : List Placed} {sign : Modifier → Bool}
    (hms : ∀ m ∈ ms, m.modifier.IsIntegral) (hsign : ∀ m ∈ ms, sign m.modifier = on m.points) :
    ((pick outdoes (ms.filter fun m => sign m.modifier)).map Placed.points).sum =
      ((pointsOf .untyped (ms.map (·.modifier))).filter on).sum +
        ([.status, .circumstance, .item].map fun type =>
          (pointsOf type (ms.map (·.modifier))).foldr outer 0).sum := by
  rw [sum_pick_eq, sum_types]
  · simp only [sum_counted_ofType side hms hsign]
    rfl
  · intro type habsent
    rw [ofType_of_not_mem habsent]
    cases type <;> rfl

end Side

/-! ## What counts is among the modifiers -/

theorem foldl_better_mem (outdoes : Number → Number → Bool) : ∀ (rest : List Placed) (m : Placed),
    rest.foldl (better outdoes) m ∈ m :: rest
  | [], m => List.mem_singleton_self m
  | n :: rest, m => by
    have hmem := foldl_better_mem outdoes rest (better outdoes m n)
    rw [List.foldl_cons]
    rcases List.mem_cons.mp hmem with heq | hrest
    · rw [heq]
      unfold better
      split
      · exact List.mem_cons_of_mem _ List.mem_cons_self
      · exact List.mem_cons_self
    · exact List.mem_cons_of_mem _ (List.mem_cons_of_mem _ hrest)

/-- What counts of a group is in the group. -/
theorem mem_of_mem_counted {outdoes : Number → Number → Bool} {type : ModifierType}
    {ms : List Placed} {m : Placed} (h : m ∈ counted outdoes type ms) : m ∈ ms := by
  unfold counted at h
  split at h
  · cases ms with
    | nil => cases h
    | cons first rest =>
      cases List.mem_singleton.mp h
      exact foldl_better_mem outdoes rest first
  · exact h

/-- What counts is among the modifiers. -/
theorem mem_of_mem_pick {outdoes : Number → Number → Bool} {ms : List Placed} {m : Placed}
    (h : m ∈ pick outdoes ms) : m ∈ ms := by
  obtain ⟨⟨type, group⟩, hgroup, hm⟩ := List.mem_flatMap.mp h
  obtain ⟨type', -, hpair⟩ := List.mem_map.mp hgroup
  cases hpair
  exact (List.mem_filter.mp (mem_of_mem_counted hm)).1

/-! ## Totals -/

/-- The sum of integral modifiers is the integer sum. -/
theorem sum_eq {ms : List Placed} (hms : ∀ m ∈ ms, m.modifier.IsIntegral) :
    sum ms = .ok (.integer (ms.map Placed.points).sum) := by
  have hvalues : ms.map (·.modifier.value) = (ms.map Placed.points).map .integer := by
    rw [List.map_map]
    exact List.map_congr_left fun m hm => (hms m hm).value_eq
  unfold sum
  rw [hvalues, Number.sum_integers, List.sum_eq_foldl]

/-- Integers are positive, negative or add nothing. -/
theorem sum_sides : ∀ xs : List Int,
    (xs.filter fun n => decide (0 < n)).sum + (xs.filter fun n => decide (n < 0)).sum = xs.sum
  | [] => rfl
  | x :: xs => by
    have ih := sum_sides xs
    simp only [List.filter_cons, decide_eq_true_eq, List.sum_cons]
    rcases lt_trichotomy 0 x with h | rfl | h
    · rw [if_pos h, if_neg (by omega), List.sum_cons]
      omega
    · rw [if_neg (by omega), if_neg (by omega), ih, zero_add]
    · rw [if_neg (by omega), if_pos h, List.sum_cons]
      omega

/-- **The total of integral modifiers is the reference.** -/
theorem total_eq_reference {ms : List Placed} (hms : ∀ m ∈ ms, m.modifier.IsIntegral) :
    total ms = .ok (.integer (reference (ms.map (·.modifier)))) := by
  have hbonuses : sum (bonuses ms) = .ok (.integer ((bonuses ms).map Placed.points).sum) :=
    sum_eq fun m hm => hms m (List.mem_filter.mp (mem_of_mem_pick hm)).1
  have hpenalties : sum (penalties ms) = .ok (.integer ((penalties ms).map Placed.points).sum) :=
    sum_eq fun m hm => hms m (List.mem_filter.mp (mem_of_mem_pick hm)).1
  have hup := sum_pick bonusSide hms fun m hm => (hms m hm).isBonus_eq
  have hdown := sum_pick penaltySide hms fun m hm => (hms m hm).isPenalty_eq
  have huntyped := sum_sides (pointsOf .untyped (ms.map (·.modifier)))
  have hreference : ((bonuses ms).map Placed.points).sum + ((penalties ms).map Placed.points).sum =
      reference (ms.map (·.modifier)) := by
    unfold bonuses penalties reference highestBonus lowestPenalty
    rw [hup, hdown, ← huntyped]
    simp only [List.map_cons, List.map_nil, List.sum_cons, List.sum_nil]
    ring
  unfold total
  rw [hbonuses, hpenalties, ← hreference]
  rfl

/-- The total of a list of integral modifiers is the reference. -/
theorem totalOf_eq_reference {ms : List Modifier} (hms : ∀ m ∈ ms, m.IsIntegral) :
    totalOf ms = .ok (.integer (reference ms)) := by
  have hplaced : ∀ m ∈ Placed.ofList ms, m.modifier.IsIntegral := by
    intro m hm
    refine hms m.modifier ?_
    rw [← Placed.map_modifier_ofList ms]
    exact List.mem_map_of_mem hm
  unfold totalOf
  rw [total_eq_reference hplaced, Placed.map_modifier_ofList]

/-! ## What a total does not depend on -/

/-- The reference does not depend on the order. -/
theorem reference_perm {ms ns : List Modifier} (h : ms.Perm ns) : reference ms = reference ns := by
  have hpoints : ∀ type, (pointsOf type ms).Perm (pointsOf type ns) := fun type =>
    (h.filter _).map _
  have hsides : ∀ type, highestBonus type ms + lowestPenalty type ms =
      highestBonus type ns + lowestPenalty type ns := fun type =>
    congrArg₂ (· + ·) (bonusSide.foldr_perm (hpoints type)) (penaltySide.foldr_perm (hpoints type))
  unfold reference
  simp only [(hpoints .untyped).sum_eq, hsides]

/-- A modifier that a list takes no notice of: it is zero, or a copy of a typed one. -/
def Redundant (ms : List Modifier) (m : Modifier) : Prop :=
  m.value = .integer 0 ∨ m.type.isExclusive = true ∧ m ∈ ms

/-- The reference takes no notice of zeros and copies of typed modifiers. -/
theorem reference_append {ms extra : List Modifier} (h : ∀ m ∈ extra, Redundant ms m) :
    reference (ms ++ extra) = reference ms := by
  have hzero : ∀ m : Modifier, m.value = .integer 0 → m.points = 0 := fun m hm => by
    unfold Modifier.points
    rw [hm]
  have huntyped : (pointsOf .untyped extra).sum = 0 := by
    refine List.sum_eq_zero fun n hn => ?_
    obtain ⟨m, hm, rfl⟩ := List.mem_map.mp hn
    obtain ⟨hextra, htype⟩ := List.mem_filter.mp hm
    rcases h m hextra with hvalue | ⟨hexclusive, -⟩
    · exact hzero m hvalue
    · rw [eq_of_beq htype] at hexclusive
      cases hexclusive
  have htyped : ∀ type, ∀ n ∈ pointsOf type extra, n = 0 ∨ n ∈ pointsOf type ms := by
    intro type n hn
    obtain ⟨m, hm, rfl⟩ := List.mem_map.mp hn
    obtain ⟨hextra, htype⟩ := List.mem_filter.mp hm
    rcases h m hextra with hvalue | ⟨-, hmem⟩
    · exact .inl (hzero m hvalue)
    · exact .inr (List.mem_map_of_mem (List.mem_filter.mpr ⟨hmem, htype⟩))
  unfold reference highestBonus lowestPenalty
  simp only [pointsOf_append, List.sum_append, huntyped, add_zero,
    bonusSide.foldr_append (htyped _), penaltySide.foldr_append (htyped _)]

/-- **What a total comes to.** The total of modifiers with integer values is all untyped values, and
of each other type the highest bonus and the lowest penalty. So it stays the same in any order, and
with any zeros and copies of typed modifiers among the modifiers. -/
theorem totalOf_integral {ms : List Modifier} (hms : ∀ m ∈ ms, m.IsIntegral) :
    totalOf ms = .ok (.integer (reference ms)) ∧
      ∀ extra ms', (∀ m ∈ extra, Redundant ms m) → ms'.Perm (ms ++ extra) →
        totalOf ms' = totalOf ms := by
  refine ⟨totalOf_eq_reference hms, fun extra ms' hextra hperm => ?_⟩
  have hms' : ∀ m ∈ ms', m.IsIntegral := by
    intro m hm
    rcases List.mem_append.mp (hperm.mem_iff.mp hm) with hold | hnew
    · exact hms m hold
    · rcases hextra m hnew with hvalue | ⟨-, hmem⟩
      · exact ⟨0, hvalue⟩
      · exact hms m hmem
  rw [totalOf_eq_reference hms', totalOf_eq_reference hms, reference_perm hperm,
    reference_append hextra]

/-- Two item bonuses and an untyped penalty, and the same after a zero and a copy. -/
theorem totalOf_integral_of_copies :
    let m (label : String) (type : ModifierType) (n : Int) : Modifier :=
      { label, source := "Test", value := .integer n, type, selector := "ac" }
    let ms := [m "A" .item 1, m "B" .item 2, m "C" .untyped (-1)]
    let extra := [m "Z" .untyped 0, m "A" .item 1]
    totalOf ms = .ok (.integer 1) ∧ totalOf (extra ++ ms) = totalOf ms := by
  intro m ms extra
  have hms : ∀ x ∈ ms, x.IsIntegral := by
    intro x hx
    simp only [ms, List.mem_cons, List.not_mem_nil, or_false] at hx
    rcases hx with rfl | rfl | rfl <;> exact ⟨_, rfl⟩
  obtain ⟨htotal, hsame⟩ := totalOf_integral hms
  refine ⟨htotal, hsame extra (extra ++ ms) ?_ List.perm_append_comm⟩
  intro x hx
  rcases List.mem_cons.mp hx with rfl | hx
  · exact .inl rfl
  · cases List.mem_singleton.mp hx
    exact .inr ⟨rfl, List.mem_cons_self⟩

end Stacking

end RuleElements
