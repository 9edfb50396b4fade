import Mathlib.Data.List.Nodup
import Mathlib.Data.List.Perm.Basic
import Mathlib.Order.OrderDual
import RuleElements.Proofs.Numeric.Comparison
import RuleElements.Proofs.Stacking.Total

/-!
# Which modifiers count

The modifiers that count are picked type by type on each side of zero, whatever numbers their values
are. This module says which ones they are without the groups: every bonus and every penalty has one
of its type and sign that counts, an untyped one is this one itself, and of the other types none on
the same side goes beyond the one that counts.

A comparison is taken here as one of keys: the place of the value on the line of numbers, with the
line turned around for penalties.

Main definitions:
* `Placed.Apart`: places tell modifiers apart.
* `Stacking.ComparesBy`: a comparison of the modifiers of a list by a key.
* `Modifier.SameSign`, `Modifier.goesBeyond`: two modifiers on one side of zero.

Results:
* `exists_mem_pick`, `mem_pick_of_not_exclusive`, `outdoes_of_mem_pick`: what is picked.
* `exists_mem_applied`: every bonus and every penalty is represented.
* `nodup_applied`, `isAmong_applied_iff`: nothing counts twice, and places tell what counts.
-/

namespace RuleElements

/-- **Places tell modifiers apart**: at one place there is one modifier. -/
def Placed.Apart (ms : List Placed) : Prop := ∀ a ∈ ms, ∀ b ∈ ms, a.place = b.place → a = b

namespace Modifier

/-- **On the same side of zero**, or both on none. -/
structure SameSign (m w : Modifier) : Prop where
  isBonus_eq : m.isBonus = w.isBonus
  isPenalty_eq : m.isPenalty = w.isPenalty

/-- A bonus above another one, or a penalty below another one. -/
def goesBeyond (m w : Modifier) : Bool :=
  m.isBonus && w.value.lt m.value || m.isPenalty && m.value.lt w.value

theorem isPenalty_of_isBonus {m : Modifier} (h : m.isBonus = true) : m.isPenalty = false :=
  Number.not_isNegative_of_isPositive h

theorem isBonus_of_isPenalty {m : Modifier} (h : m.isPenalty = true) : m.isBonus = false := by
  rw [Bool.eq_false_iff]
  intro hbonus
  rw [isPenalty_of_isBonus hbonus] at h
  cases h

theorem SameSign.of_isBonus {m w : Modifier} (hm : m.isBonus = true) (hw : w.isBonus = true) :
    m.SameSign w :=
  ⟨hm.trans hw.symm, (isPenalty_of_isBonus hm).trans (isPenalty_of_isBonus hw).symm⟩

theorem SameSign.of_isPenalty {m w : Modifier} (hm : m.isPenalty = true)
    (hw : w.isPenalty = true) : m.SameSign w :=
  ⟨(isBonus_of_isPenalty hm).trans (isBonus_of_isPenalty hw).symm, hm.trans hw.symm⟩

end Modifier

namespace Stacking

variable {outdoes : Number → Number → Bool} {ms : List Placed} {m w : Placed}

/-! ## The best of a group -/

section Key

variable {κ : Type} [LinearOrder κ] {key : Placed → κ}

/-- **A comparison by a key**: to outdo is to have a larger key. -/
def ComparesBy (outdoes : Number → Number → Bool) (key : Placed → κ) (ms : List Placed) : Prop :=
  ∀ x ∈ ms, ∀ y ∈ ms, outdoes x.modifier.value y.modifier.value = true ↔ key y < key x

theorem ComparesBy.subset {ns : List Placed} (h : ComparesBy outdoes key ms) (hsub : ns ⊆ ms) :
    ComparesBy outdoes key ns := fun x hx y hy => h x (hsub hx) y (hsub hy)

theorem better_cases (outdoes : Number → Number → Bool) (current next : Placed) :
    better outdoes current next = current ∨ better outdoes current next = next := by
  unfold better
  split
  · exact .inr rfl
  · exact .inl rfl

/-- The better one of two modifiers has the larger key. -/
theorem key_better {current next : Placed}
    (h : outdoes next.modifier.value current.modifier.value = true ↔ key current < key next) :
    key (better outdoes current next) = max (key current) (key next) := by
  unfold better
  split
  · rename_i hnext
    exact (max_eq_right (h.mp hnext).le).symm
  · rename_i hnext
    exact (max_eq_left (not_lt.mp fun hlt => hnext (h.mpr hlt))).symm

/-- No modifier of a group has a larger key than the best one. -/
theorem key_le_foldl_better : ∀ {rest : List Placed} {first : Placed},
    ComparesBy outdoes key (first :: rest) →
      ∀ x ∈ first :: rest, key x ≤ key (rest.foldl (better outdoes) first)
  | [], first, _, x, hx => by
    cases List.mem_singleton.mp hx
    exact le_refl _
  | n :: rest, first, h, x, hx => by
    have hsub : better outdoes first n :: rest ⊆ first :: n :: rest := by
      intro y hy
      rcases List.mem_cons.mp hy with rfl | hy
      · rcases better_cases outdoes first n with heq | heq <;> simp [heq]
      · simp [hy]
    -- The better one of the first two stands for both, since its key is the larger one.
    have hbetter := key_better (h n (by simp) first (by simp))
    have ih := key_le_foldl_better (h.subset hsub)
    have hbest := ih _ List.mem_cons_self
    rw [hbetter, max_le_iff] at hbest
    rcases List.mem_cons.mp hx with rfl | hx
    · exact hbest.1
    · rcases List.mem_cons.mp hx with rfl | hx
      · exact hbest.2
      · exact ih x (List.mem_cons_of_mem _ hx)

theorem key_le_of_mem_counted {type : ModifierType} (h : ComparesBy outdoes key ms)
    (htype : type.isExclusive = true) (hw : w ∈ counted outdoes type ms) (hm : m ∈ ms) :
    key m ≤ key w := by
  unfold counted at hw
  rw [if_pos htype] at hw
  cases ms with
  | nil => cases hm
  | cons first rest =>
    cases List.mem_singleton.mp hw
    exact key_le_foldl_better h m hm

end Key

/-! ## What is picked -/

theorem mem_ofType {type : ModifierType} :
    m ∈ ofType ms type ↔ m ∈ ms ∧ m.modifier.type = type := by
  unfold ofType
  rw [List.mem_filter, beq_iff_eq]

/-- A modifier is picked if it counts in the group of its type. -/
theorem mem_pick_iff : w ∈ pick outdoes ms ↔
    w ∈ counted outdoes w.modifier.type (ofType ms w.modifier.type) := by
  unfold pick groups
  rw [List.flatMap_map, List.mem_flatMap]
  constructor
  · rintro ⟨type, -, hw⟩
    obtain rfl := (mem_ofType.mp (mem_of_mem_counted hw)).2
    exact hw
  · intro hw
    refine ⟨w.modifier.type, ?_, hw⟩
    unfold types
    rw [List.mem_eraseDups]
    exact List.mem_map_of_mem (mem_ofType.mp (mem_of_mem_counted hw)).1

/-- Where several may count, all do. -/
theorem mem_pick_of_not_exclusive (hm : m ∈ ms) (htype : m.modifier.type.isExclusive = false) :
    m ∈ pick outdoes ms := by
  rw [mem_pick_iff, counted, htype]
  exact mem_ofType.mpr ⟨hm, rfl⟩

/-- **Every type is represented** among what is picked. -/
theorem exists_mem_pick (outdoes : Number → Number → Bool) (hm : m ∈ ms) :
    ∃ w ∈ pick outdoes ms, w.modifier.type = m.modifier.type := by
  have hgroup : m ∈ ofType ms m.modifier.type := mem_ofType.mpr ⟨hm, rfl⟩
  obtain ⟨w, hw⟩ : ∃ w, w ∈ counted outdoes m.modifier.type (ofType ms m.modifier.type) := by
    unfold counted
    split
    · cases hms : ofType ms m.modifier.type with
      | nil => simp [hms] at hgroup
      | cons first rest => exact ⟨_, List.mem_singleton_self _⟩
    · exact ⟨m, hgroup⟩
  have htype := (mem_ofType.mp (mem_of_mem_counted hw)).2
  exact ⟨w, mem_pick_iff.mpr (by rw [htype]; exact hw), htype⟩

/-- **No modifier outdoes** the picked one of its type. -/
theorem outdoes_of_mem_pick {κ : Type} [LinearOrder κ] {key : Placed → κ}
    (h : ComparesBy outdoes key ms) (htype : w.modifier.type.isExclusive = true)
    (hw : w ∈ pick outdoes ms) (hm : m ∈ ms) (hsame : m.modifier.type = w.modifier.type) :
    outdoes m.modifier.value w.modifier.value = false := by
  have hle : key m ≤ key w := key_le_of_mem_counted (h.subset List.filter_sublist.subset) htype
    (mem_pick_iff.mp hw) (mem_ofType.mpr ⟨hm, hsame⟩)
  rw [Bool.eq_false_iff, ne_eq, h m hm w (mem_of_mem_pick hw)]
  exact not_lt.mpr hle

theorem nodup_counted {type : ModifierType} (h : ms.Nodup) : (counted outdoes type ms).Nodup := by
  unfold counted
  split
  · cases best? outdoes ms <;> simp
  · exact h

/-- Nothing is picked twice. -/
theorem nodup_pick (h : ms.Nodup) : (pick outdoes ms).Nodup := by
  unfold pick groups
  rw [List.flatMap_map, List.nodup_flatMap]
  refine ⟨fun type _ => nodup_counted (h.filter _), (nodup_eraseDups _).imp fun hne m hm hm' => ?_⟩
  have htype := (mem_ofType.mp (mem_of_mem_counted hm)).2
  have htype' := (mem_ofType.mp (mem_of_mem_counted hm')).2
  exact hne (htype.symm.trans htype')

/-! ## What counts -/

theorem of_mem_bonuses (h : m ∈ bonuses ms) : m ∈ ms ∧ m.modifier.isBonus = true :=
  List.mem_filter.mp (mem_of_mem_pick h)

theorem of_mem_penalties (h : m ∈ penalties ms) : m ∈ ms ∧ m.modifier.isPenalty = true :=
  List.mem_filter.mp (mem_of_mem_pick h)

/-- What counts is a bonus or a penalty of the list. -/
theorem of_mem_applied (h : m ∈ applied ms) :
    m ∈ ms ∧ (m.modifier.isBonus = true ∨ m.modifier.isPenalty = true) := by
  rcases List.mem_append.mp h with h | h
  · exact (of_mem_bonuses h).imp_right .inl
  · exact (of_mem_penalties h).imp_right .inr

theorem mem_bonuses_of_mem_applied (h : m ∈ applied ms) (hsign : m.modifier.isBonus = true) :
    m ∈ bonuses ms := by
  refine (List.mem_append.mp h).resolve_right fun hpenalty => ?_
  rw [Modifier.isBonus_of_isPenalty (of_mem_penalties hpenalty).2] at hsign
  cases hsign

theorem mem_penalties_of_mem_applied (h : m ∈ applied ms) (hsign : m.modifier.isPenalty = true) :
    m ∈ penalties ms := by
  refine (List.mem_append.mp h).resolve_left fun hbonus => ?_
  rw [Modifier.isPenalty_of_isBonus (of_mem_bonuses hbonus).2] at hsign
  cases hsign

/-- The bonuses are compared by where their values lie. -/
theorem comparesBy_bonuses (ms : List Placed) :
    ComparesBy (fun next current => current.lt next) (fun m => m.modifier.value.position)
      (ms.filter (·.modifier.isBonus)) := by
  intro x hx y hy
  have hx := Number.isPositive_eq_true_iff.mp (List.mem_filter.mp hx).2
  have hy := Number.isPositive_eq_true_iff.mp (List.mem_filter.mp hy).2
  rw [Number.lt_eq_true_iff]
  exact ⟨fun h => h.2.2, fun h => ⟨hy.1, hx.1, h⟩⟩

/-- The penalties are compared by where their values lie, on the line turned around. -/
theorem comparesBy_penalties (ms : List Placed) :
    ComparesBy Number.lt (fun m => OrderDual.toDual m.modifier.value.position)
      (ms.filter (·.modifier.isPenalty)) := by
  intro x hx y hy
  have hx := Number.isNegative_eq_true_iff.mp (List.mem_filter.mp hx).2
  have hy := Number.isNegative_eq_true_iff.mp (List.mem_filter.mp hy).2
  rw [Number.lt_eq_true_iff]
  exact ⟨fun h => h.2.2, fun h => ⟨hx.1, hy.1, h⟩⟩

/-- Untyped bonuses and penalties count. -/
theorem mem_applied_of_not_exclusive (hm : m ∈ ms)
    (hsign : m.modifier.isBonus = true ∨ m.modifier.isPenalty = true)
    (htype : m.modifier.type.isExclusive = false) : m ∈ applied ms := by
  rcases hsign with h | h
  · exact List.mem_append_left _ (mem_pick_of_not_exclusive (List.mem_filter.mpr ⟨hm, h⟩) htype)
  · exact List.mem_append_right _ (mem_pick_of_not_exclusive (List.mem_filter.mpr ⟨hm, h⟩) htype)

/-- **Every bonus and every penalty is represented** by one of its type and sign that counts. -/
theorem exists_mem_applied (hm : m ∈ ms)
    (hsign : m.modifier.isBonus = true ∨ m.modifier.isPenalty = true) :
    ∃ w ∈ applied ms, w.modifier.type = m.modifier.type ∧ w.modifier.SameSign m.modifier := by
  rcases hsign with h | h
  · obtain ⟨w, hw, htype⟩ := exists_mem_pick (fun next current => current.lt next)
      (List.mem_filter.mpr ⟨hm, h⟩ : m ∈ ms.filter (·.modifier.isBonus))
    exact ⟨w, List.mem_append_left _ hw, htype, .of_isBonus (of_mem_bonuses hw).2 h⟩
  · obtain ⟨w, hw, htype⟩ := exists_mem_pick Number.lt
      (List.mem_filter.mpr ⟨hm, h⟩ : m ∈ ms.filter (·.modifier.isPenalty))
    exact ⟨w, List.mem_append_right _ hw, htype, .of_isPenalty (of_mem_penalties hw).2 h⟩

/-- **No modifier goes beyond** the one of its type and sign that counts. -/
theorem goesBeyond_of_mem_applied (hw : w ∈ applied ms) (hm : m ∈ ms)
    (htype : w.modifier.type = m.modifier.type) (hexclusive : m.modifier.type.isExclusive = true)
    (hsign : w.modifier.SameSign m.modifier) : m.modifier.goesBeyond w.modifier = false := by
  rw [← htype] at hexclusive
  have hbonus (h : m.modifier.isBonus = true) : w.modifier.value.lt m.modifier.value = false := by
    have hpicked := mem_bonuses_of_mem_applied hw (hsign.isBonus_eq.trans h)
    have hbest := outdoes_of_mem_pick (comparesBy_bonuses ms) hexclusive hpicked
      (List.mem_filter.mpr ⟨hm, h⟩) htype.symm
    exact hbest
  have hpenalty (h : m.modifier.isPenalty = true) :
      m.modifier.value.lt w.modifier.value = false := by
    have hpicked := mem_penalties_of_mem_applied hw (hsign.isPenalty_eq.trans h)
    have hbest := outdoes_of_mem_pick (comparesBy_penalties ms) hexclusive hpicked
      (List.mem_filter.mpr ⟨hm, h⟩) htype.symm
    exact hbest
  unfold Modifier.goesBeyond
  cases h : m.modifier.isBonus <;> cases h' : m.modifier.isPenalty <;>
    simp [hbonus, hpenalty, h, h']

/-- **Nothing counts twice.** -/
theorem nodup_applied (h : ms.Nodup) : (applied ms).Nodup := by
  refine List.nodup_append.mpr ⟨nodup_pick (h.filter _), nodup_pick (h.filter _), ?_⟩
  rintro x hx y hy rfl
  have hbonus := (of_mem_bonuses hx).2
  rw [Modifier.isBonus_of_isPenalty (of_mem_penalties hy).2] at hbonus
  cases hbonus

/-- Places tell what counts. -/
theorem isAmong_applied_iff (hms : Placed.Apart ms) (hm : m ∈ ms) :
    isAmong m (applied ms) = true ↔ m ∈ applied ms := by
  unfold isAmong
  rw [List.any_eq_true]
  constructor
  · rintro ⟨w, hw, hplace⟩
    rw [hms m hm w (of_mem_applied hw).1 (eq_of_beq hplace).symm]
    exact hw
  · exact fun h => ⟨m, h, beq_self_eq_true _⟩

end Stacking

end RuleElements
