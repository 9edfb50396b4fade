import RuleElements.Character.Sheet
import RuleElements.Proofs.Fields
import RuleElements.Proofs.Numeric.Integral
import RuleElements.Proofs.Predicate.Agreement

/-!
# The highest speeds

Speeds are taken in one by one, and of each type the highest is kept. What a type comes to depends
on the speeds of that type only, and if these are integers, not on their order.

Main definitions:
* `Number.keepLarger`: the larger of the best number so far and a further one.

Results:
* `Speed.get?_byType`: the speed of a type is the largest of the speeds of that type.
* `Sheet.get?_raisedSpeeds`: the speed of a type with what the state has of itself.
* `Sheet.get?_raisedSpeeds_perm`: the order of integral speeds does not matter.
-/

namespace RuleElements

/-- The larger of the best number so far and a further one. -/
def Number.keepLarger (best : Option Number) (n : Number) : Option Number :=
  some (best.elim n (·.larger n))

/-- The largest of a list is kept from one to the next. -/
theorem Number.maximum?_eq_foldl : ∀ ns : List Number, maximum? ns = ns.foldl keepLarger none
  | [] => rfl
  | n :: ns => by
    have hfold : ∀ (ns : List Number) (best : Number),
        ns.foldl keepLarger (some best) = some (ns.foldl larger best) := by
      intro ns
      induction ns with
      | nil => exact fun _ => rfl
      | cons m ns ih => exact fun best => ih (best.larger m)
    exact (hfold ns n).symm

namespace Speed

/-- A speed is taken in by writing to the known ones, or not at all. -/
theorem improve_cases (known : List (String × Number)) (s : Speed) :
    improve known s = known ∨ improve known s = Fields.set known s.type s.value := by
  unfold improve
  split
  · exact .inr rfl
  · split
    · exact .inr rfl
    · exact .inl rfl

/-- A further speed counts for its own type. -/
theorem get?_improve (known : List (String × Number)) (s : Speed) (type : String) :
    Fields.get? (improve known s) type =
      if s.type = type then Number.keepLarger (Fields.get? known type) s.value
      else Fields.get? known type := by
  by_cases htype : s.type = type
  · obtain rfl := htype
    rw [if_pos rfl]
    unfold improve
    cases hget : Fields.get? known s.type with
    | none => exact Fields.get?_set known s.type s.value
    | some value =>
      show _ = some (value.larger s.value)
      unfold Number.larger
      simp only
      split
      · exact Fields.get?_set known s.type s.value
      · exact hget
  · rw [if_neg htype]
    rcases improve_cases known s with hsame | hset
    · rw [hsame]
    · rw [hset, Fields.get?_set_of_ne (Ne.symm htype)]

/-- **The speed of a type** is the largest of the speeds of that type. -/
theorem get?_byType (speeds : List Speed) (type : String) :
    Fields.get? (byType speeds none) type =
      Number.maximum? ((speeds.filter (·.type == type)).map (·.value)) := by
  have hfold := Fields.get?_foldl (fun best s => Number.keepLarger best s.value) get?_improve type
    speeds []
  unfold byType
  rw [Gated.filter_appliesIn_none, hfold, Number.maximum?_eq_foldl, List.foldl_map]
  rfl

/-- Each type occurs once. -/
theorem nodup_names_byType (speeds : List Speed) : (Fields.names (byType speeds none)).Nodup := by
  refine List.foldlRecOn (motive := fun known => (Fields.names known).Nodup) _ improve
    List.nodup_nil fun known h s _ => ?_
  rcases improve_cases known s with hsame | hset
  · rwa [hsame]
  · rw [hset]
    exact Fields.nodup_names_set h

/-- The highest of integral speeds are integral. -/
theorem isIntegral_byType {speeds : List Speed} (h : ∀ s ∈ speeds, s.value.IsIntegral) :
    ∀ field ∈ byType speeds none, field.2.IsIntegral := by
  unfold byType
  rw [Gated.filter_appliesIn_none]
  refine List.foldlRecOn (motive := fun known => ∀ field ∈ known, field.2.IsIntegral) speeds improve
    (fun _ hfield => absurd hfield List.not_mem_nil) fun known hknown s hs => ?_
  rcases improve_cases known s with hsame | hset
  · rwa [hsame]
  · rw [hset]
    exact Fields.forall_set hknown (h s hs)

end Speed

namespace Sheet

/-- The speeds with one of them raised. -/
def raise (known : List (String × Number)) (speed : String × Number) : List (String × Number) :=
  Fields.set known speed.1 (((Fields.get? known speed.1).getD (.integer 0)).larger speed.2)

theorem get?_foldl_raise (type : String) : ∀ {speeds : List (String × Number)}
    {known : List (String × Number)}, (Fields.names speeds).Nodup →
      Fields.get? (speeds.foldl raise known) type =
        (Fields.get? speeds type).elim (Fields.get? known type) fun value =>
          some (((Fields.get? known type).getD (.integer 0)).larger value)
  | [], _, _ => rfl
  | (first, value) :: rest, known, h => by
    obtain ⟨hfirst, hrest⟩ := List.nodup_cons.mp h
    rw [List.foldl_cons, get?_foldl_raise type hrest]
    by_cases htype : first = type
    · obtain rfl := htype
      have hhead : Fields.get? ((first, value) :: rest) first = some value := if_pos rfl
      rw [Fields.get?_of_not_mem hfirst, hhead]
      exact Fields.get?_set known first _
    · have hother : Fields.get? (raise known (first, value)) type = Fields.get? known type :=
        Fields.get?_set_of_ne (Ne.symm htype) known _
      rw [hother]
      conv_rhs => rw [Fields.get?, if_neg htype]

/-- **The speed of a type** is that of the state, or the larger one of that and the highest speed of
the entries if there is one. -/
theorem get?_raisedSpeeds (base : List (String × Int)) (speeds : List Speed) (type : String) :
    Fields.get? (raisedSpeeds base speeds) type =
      (Number.maximum? ((speeds.filter (·.type == type)).map (·.value))).elim
        (Fields.get? (Fields.mapValues Number.integer base) type) fun value =>
          some (((Fields.get? (Fields.mapValues Number.integer base) type).getD
            (.integer 0)).larger value) := by
  rw [← Speed.get?_byType]
  exact get?_foldl_raise type (Speed.nodup_names_byType speeds)

/-- **The order of integral speeds does not matter.** -/
theorem get?_raisedSpeeds_perm (base : List (String × Int)) {speeds speeds' : List Speed}
    (h : ∀ s ∈ speeds, s.value.IsIntegral) (hperm : speeds.Perm speeds') (type : String) :
    Fields.get? (raisedSpeeds base speeds) type = Fields.get? (raisedSpeeds base speeds') type := by
  have hvalues : ∀ n ∈ (speeds.filter (·.type == type)).map (·.value), n.IsIntegral := by
    intro n hn
    obtain ⟨s, hs, rfl⟩ := List.mem_map.mp hn
    exact h s (List.mem_filter.mp hs).1
  rw [get?_raisedSpeeds, get?_raisedSpeeds,
    Number.maximum?_perm hvalues ((hperm.filter _).map _)]

/-- Integral speeds raise those of the state to integral ones. -/
theorem isIntegral_raisedSpeeds (base : List (String × Int)) {speeds : List Speed}
    (h : ∀ s ∈ speeds, s.value.IsIntegral) :
    ∀ speed ∈ raisedSpeeds base speeds, speed.2.IsIntegral := by
  have hbase : ∀ field ∈ Fields.mapValues Number.integer base, field.2.IsIntegral := by
    intro field hfield
    obtain ⟨⟨type, n⟩, -, rfl⟩ := List.mem_map.mp hfield
    exact Number.isIntegral_integer n
  refine List.foldlRecOn (motive := fun known => ∀ field ∈ known, field.2.IsIntegral)
    (Speed.byType speeds none) raise hbase fun known hknown pair hpair => ?_
  refine Fields.forall_set hknown (Number.IsIntegral.larger ?_ (Speed.isIntegral_byType h _ hpair))
  cases hget : Fields.get? known pair.1 with
  | none => exact Number.isIntegral_integer 0
  | some value => exact hknown _ (Fields.mem_of_get? hget)

end Sheet

end RuleElements
