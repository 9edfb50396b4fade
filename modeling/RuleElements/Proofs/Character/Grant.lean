import Mathlib.Data.List.Induction
import RuleElements.Character.Property

/-!
# Redundant grants

Grants are taken in one by one, and each is compared with those that have been kept. A grant that is
dropped has its identifier among the kept ones, so the kept grants bear the same identifiers as all
grants so far, and to compare with the ones or with the others is the same.

Main definitions:
* `GrantedItem.Repeats`: a grant that must not repeat another one, and does.
* `GrantedItem.unrepeated`: the grants of a list that repeat none before them.

Results:
* `GrantedItem.isGranted_foldl_keep`: no identifier is lost.
* `GrantedItem.foldl_keep_eq`: what is kept are the grants that repeat none before them.
* `GrantedItem.active_unrepeated`: the grants that apply, and what a second pass over them keeps.
-/

namespace RuleElements.GrantedItem

/-- **A grant repeats another one** if it bears the same identifier, not an empty one, and does not
allow duplicates. What the other one allows does not matter. -/
def Repeats (item other : GrantedItem) : Prop :=
  item.uuid ≠ none ∧ item.uuid ≠ some "" ∧ item.allowDuplicate = false ∧ other.uuid = item.uuid

instance (item other : GrantedItem) : Decidable (item.Repeats other) :=
  inferInstanceAs (Decidable (_ ∧ _ ∧ _ ∧ _))

/-- **The grants that repeat none of those before them**, in order. -/
def unrepeated (items : List GrantedItem) : List GrantedItem :=
  (items.zipIdx.filter fun (item, place) =>
    ∀ other ∈ items.take place, ¬ item.Repeats other).map (·.1)

variable {items granted : List GrantedItem} {item : GrantedItem}

/-! ## One grant -/

theorem isRedundant_iff :
    isRedundant granted item = true ↔ ∃ other ∈ granted, item.Repeats other := by
  unfold isRedundant isGranted Repeats
  cases item.uuid <;> simp [and_assoc, and_left_comm]

theorem isGranted_append (items granted : List GrantedItem) (uuid : Option String) :
    isGranted (items ++ granted) uuid = (isGranted items uuid || isGranted granted uuid) :=
  List.any_append

/-- **A grant that is dropped** has its identifier among the kept ones. -/
theorem isGranted_keep (granted : List GrantedItem) (item : GrantedItem) (uuid : Option String) :
    isGranted (keep granted item) uuid = isGranted (granted ++ [item]) uuid := by
  unfold keep
  split
  · rename_i hredundant
    obtain ⟨other, hother, -, -, -, hsame⟩ := isRedundant_iff.mp hredundant
    have hkept : isGranted [item] uuid = true → isGranted granted uuid = true := by
      intro hitem
      refine List.any_eq_true.mpr ⟨other, hother, ?_⟩
      rw [hsame]
      simpa [isGranted] using hitem
    rw [isGranted_append, Bool.or_eq_left_iff_imp.mpr hkept]
  · rfl

/-- Nothing is dropped that repeats none of the grants kept so far. -/
theorem keep_of_not_repeats (h : ∀ other ∈ granted, ¬ item.Repeats other) :
    keep granted item = granted ++ [item] := by
  refine if_neg fun hredundant => ?_
  obtain ⟨other, hother, hrepeats⟩ := isRedundant_iff.mp hredundant
  exact h other hother hrepeats

/-! ## Any number of grants -/

/-- **No identifier is lost**: the kept grants bear the same ones as all grants. -/
theorem isGranted_foldl_keep (items : List GrantedItem) (uuid : Option String) :
    isGranted (items.foldl keep []) uuid = isGranted items uuid := by
  induction items using List.reverseRecOn with
  | nil => rfl
  | append_singleton earlier item ih =>
    rw [List.foldl_append, List.foldl_cons, List.foldl_nil, isGranted_keep, isGranted_append, ih,
      isGranted_append]

/-- To compare with the kept grants is to compare with all of them. -/
theorem exists_repeats_foldl_keep :
    (∃ other ∈ items.foldl keep [], item.Repeats other) ↔ ∃ other ∈ items, item.Repeats other := by
  rw [← isRedundant_iff, ← isRedundant_iff]
  unfold isRedundant
  rw [isGranted_foldl_keep]

/-- A further grant is judged by all those before it, and does not bear on them. -/
theorem unrepeated_concat (items : List GrantedItem) (item : GrantedItem) :
    unrepeated (items ++ [item]) =
      unrepeated items ++ if ∃ other ∈ items, item.Repeats other then [] else [item] := by
  have hearlier : items.zipIdx.filter (fun (x, place) =>
        ∀ other ∈ (items ++ [item]).take place, ¬ x.Repeats other) =
      items.zipIdx.filter fun (x, place) => ∀ other ∈ items.take place, ¬ x.Repeats other := by
    refine List.filter_congr fun pair hpair => ?_
    have hplace : pair.2 ≤ items.length := by
      have := (List.mem_zipIdx hpair).2.1
      omega
    simp only [List.take_append_of_le_length hplace]
  have htake : (items ++ [item]).take (0 + items.length) = items := by
    rw [Nat.zero_add, List.take_left]
  unfold unrepeated
  rw [List.zipIdx_append, List.filter_append, List.map_append, hearlier, List.zipIdx_singleton]
  refine congrArg (_ ++ ·) ?_
  by_cases h : ∃ other ∈ items, item.Repeats other
  · obtain ⟨other, hother, hrepeats⟩ := id h
    rw [if_pos h, List.filter_cons_of_neg, List.filter_nil, List.map_nil]
    simp only [htake, decide_eq_true_eq]
    exact fun hnone => hnone other hother hrepeats
  · rw [if_neg h, List.filter_cons_of_pos, List.filter_nil, List.map_cons, List.map_nil]
    simp only [htake, decide_eq_true_eq]
    exact fun other hother hrepeats => h ⟨other, hother, hrepeats⟩

/-- **What is kept** are the grants that repeat none before them, kept or not. -/
theorem foldl_keep_eq (items : List GrantedItem) : items.foldl keep [] = unrepeated items := by
  induction items using List.reverseRecOn with
  | nil => rfl
  | append_singleton earlier item ih =>
    rw [List.foldl_append, List.foldl_cons, List.foldl_nil, unrepeated_concat, ← ih]
    by_cases h : ∃ other ∈ earlier, item.Repeats other
    · have hredundant := isRedundant_iff.mpr (exists_repeats_foldl_keep.mpr h)
      rw [if_pos h, List.append_nil]
      exact if_pos hredundant
    · rw [if_neg h]
      exact keep_of_not_repeats fun other hother hrepeats =>
        h (exists_repeats_foldl_keep.mp ⟨other, hother, hrepeats⟩)

/-! ## A second pass -/

/-- The kept grants are some of all grants, in order. -/
theorem unrepeated_sublist (items : List GrantedItem) : (unrepeated items).Sublist items := by
  have h := (List.filter_sublist (l := items.zipIdx) (p := fun (item, place) =>
    ∀ other ∈ items.take place, ¬ item.Repeats other)).map (·.1)
  rwa [List.zipIdx_map_fst] at h

/-- No kept grant repeats another one before it. -/
theorem pairwise_foldl_keep (items : List GrantedItem) :
    (items.foldl keep []).Pairwise fun other item => ¬ item.Repeats other := by
  refine List.foldlRecOn (motive := fun granted : List GrantedItem =>
    granted.Pairwise fun other item => ¬ item.Repeats other) items keep .nil
    fun granted hgranted item _ => ?_
  unfold keep
  split
  · exact hgranted
  · rename_i hkept
    refine List.pairwise_append.mpr ⟨hgranted, List.pairwise_singleton _ _, ?_⟩
    intro other hother x hx hrepeats
    obtain rfl := List.mem_singleton.mp hx
    exact hkept (isRedundant_iff.mpr ⟨other, hother, hrepeats⟩)

/-- Grants of which none repeats another one before it are all kept. -/
theorem foldl_keep_of_pairwise (h : items.Pairwise fun other item => ¬ item.Repeats other) :
    items.foldl keep [] = items := by
  induction items using List.reverseRecOn with
  | nil => rfl
  | append_singleton earlier item ih =>
    obtain ⟨hearlier, -, hitem⟩ := List.pairwise_append.mp h
    rw [List.foldl_append, List.foldl_cons, List.foldl_nil, ih hearlier]
    exact keep_of_not_repeats fun other hother =>
      hitem other hother item (List.mem_singleton_self _)

/-- **Exactly the redundant grants are dropped.** Of the grants that apply, in order, those are kept
that repeat no grant before them that applies. So every identifier stays granted, and a second pass
over what is kept drops nothing. -/
theorem active_unrepeated (items : List GrantedItem) (ctx : Option Context) :
    active items ctx = unrepeated (items.filter (Gated.appliesIn ctx)) ∧
    (∀ uuid, isGranted (active items ctx) uuid =
      isGranted (items.filter (Gated.appliesIn ctx)) uuid) ∧
    active (active items ctx) ctx = active items ctx := by
  have hkept : active items ctx = unrepeated (items.filter (Gated.appliesIn ctx)) :=
    foldl_keep_eq _
  refine ⟨hkept, isGranted_foldl_keep _, ?_⟩
  have happlies : (active items ctx).filter (Gated.appliesIn ctx) = active items ctx := by
    refine List.filter_eq_self.mpr fun item hitem => ?_
    rw [hkept] at hitem
    exact (List.mem_filter.mp ((unrepeated_sublist _).subset hitem)).2
  rw [active, happlies]
  exact foldl_keep_of_pairwise (pairwise_foldl_keep _)

/-- A shield that is granted twice, a potion that may be, and two grants without an identifier. -/
example :
    let shield : GrantedItem := { uuid := some "shield", source := "Guild" }
    let spare : GrantedItem := { uuid := some "shield", source := "Spare", allowDuplicate := true }
    let potion : GrantedItem := { uuid := some "potion", source := "Lab", allowDuplicate := true }
    let trinket : GrantedItem := { source := "Attic" }
    (active [spare, shield, potion, trinket, potion, trinket, shield] none).map (·.source) =
      ["Spare", "Lab", "Attic", "Lab", "Attic"] := by
  decide +kernel

end RuleElements.GrantedItem
