import RuleElements.Proofs.Character.Order

/-!
# Damage that stops recovery

Damage of a type stops the sources of recovery that name it. This can be recorded in the sources,
which are switched off one damage after the other, or left to the sum, which is told the recent
types of damage and skips the sources that name one of them. Both leave out the same sources: a
source is off after some types of damage if it was off before, or if it names one of them.

Main definitions:
* `FastHealing.struck`: sources after several types of damage, one after the other.
* `FastHealing.unlessNaming`: what becomes of one source.

Results:
* `FastHealing.struck_eq`: what becomes of all sources.
* `FastHealing.total_struck`, `FastHealing.total_congr`: the sums, failures included.
* `FastHealing.total_after_damage`: both ways on integral sources, in whatever order damage comes.
-/

namespace RuleElements.FastHealing

/-- **Sources after several types of damage**, one after the other. -/
def struck (types : List String) (sources : List FastHealing) : List FastHealing :=
  types.foldl (fun sources type => sources.map (deactivate type)) sources

/-- A source that stays on only if it names none of the types. -/
def unlessNaming (types : List String) (f : FastHealing) : FastHealing :=
  { f with active := f.active && !types.any f.deactivatedBy.contains }

/-! ## Sources -/

theorem unlessNaming_nil (f : FastHealing) : f.unlessNaming [] = f := by
  unfold unlessNaming
  rw [List.any_nil, Bool.not_false, Bool.and_true]

/-- Damage of one more type, before that of the others. -/
theorem unlessNaming_deactivate (type : String) (types : List String) (f : FastHealing) :
    (f.deactivate type).unlessNaming types = f.unlessNaming (type :: types) := by
  unfold deactivate unlessNaming
  by_cases hnames : f.deactivatedBy.contains type = true
  · rw [if_pos hnames, List.any_cons, hnames, Bool.true_or, Bool.not_true, Bool.and_false]
    rfl
  · rw [if_neg hnames, List.any_cons, eq_false_of_ne_true hnames, Bool.false_or]

/-- **What becomes of all sources.** -/
theorem struck_eq : ∀ (types : List String) (sources : List FastHealing),
    struck types sources = sources.map (unlessNaming types)
  | [], sources => by
    rw [funext unlessNaming_nil]
    exact (List.map_id' sources).symm
  | type :: types, sources => by
    show struck types (sources.map (deactivate type)) = _
    rw [struck_eq types, List.map_map]
    exact List.map_congr_left fun f _ => unlessNaming_deactivate type types f

/-! ## Sums -/

/-- To name one of the types is for one of the types to be named. -/
theorem any_contains_comm (types names : List String) :
    names.any types.contains = types.any names.contains := by
  rw [Bool.eq_iff_iff]
  simp only [List.any_eq_true, List.contains_iff_mem]
  exact ⟨fun ⟨d, hname, htype⟩ => ⟨d, htype, hname⟩, fun ⟨d, htype, hname⟩ => ⟨d, hname, htype⟩⟩

/-- **A source heals** after some types of damage if and only if it heals while they are recent. -/
theorem heals_unlessNaming (types : List String) (ctx : Option Context) (f : FastHealing) :
    heals [] ctx (f.unlessNaming types) = heals types ctx f := by
  have hgate : Gated.appliesIn ctx (f.unlessNaming types) = Gated.appliesIn ctx f := by
    cases ctx <;> rfl
  have hnone : f.deactivatedBy.any ([] : List String).contains = false :=
    any_contains_comm [] f.deactivatedBy
  have hstopped := any_contains_comm types f.deactivatedBy
  unfold heals
  rw [hgate, hstopped]
  show (f.active && !types.any f.deactivatedBy.contains && Gated.appliesIn ctx f &&
    !f.deactivatedBy.any ([] : List String).contains) = _
  rw [hnone, Bool.not_false, Bool.and_true, Bool.and_right_comm]

/-- **To record damage in the sources** gives the same sum as to tell the sum about it. -/
theorem total_struck (types : List String) (sources : List FastHealing) (ctx : Option Context) :
    total (struck types sources) [] ctx = total sources types ctx := by
  have hheals : heals [] ctx ∘ unlessNaming types = heals types ctx :=
    funext (heals_unlessNaming types ctx)
  unfold total
  rw [struck_eq, List.filter_map, hheals, List.map_map]
  rfl

/-- Only which types of damage are recent matters, not their order or how often they came. -/
theorem total_congr {types types' : List String} (h : ∀ type, type ∈ types ↔ type ∈ types')
    (sources : List FastHealing) (ctx : Option Context) :
    total sources types ctx = total sources types' ctx := by
  have hcontains : types.contains = types'.contains := funext fun type => by
    rw [Bool.eq_iff_iff, List.contains_iff_mem, List.contains_iff_mem, h]
  have hheals : heals types ctx = heals types' ctx := funext fun f => by
    unfold heals
    rw [hcontains]
  unfold total
  rw [hheals]

/-- **Sources that damage has switched off heal no more and no less** than sources of which the sum
is told that the damage is recent. The sum is an integer if the sources are integral, and it stays
the same if types of damage come in another order, or repeatedly. -/
theorem total_after_damage {sources : List FastHealing} (h : ∀ f ∈ sources, f.value.IsIntegral)
    (types : List String) (ctx : Option Context) :
    ∃ n : Int, total sources types ctx = .ok (.integer n) ∧
      ∀ types', (∀ type, type ∈ types' ↔ type ∈ types) →
        total (struck types' sources) [] ctx = .ok (.integer n) ∧
        total sources types' ctx = .ok (.integer n) := by
  obtain ⟨n, htotal⟩ := total_integral types ctx h
  refine ⟨n, htotal, fun types' hsame => ?_⟩
  have hother : total sources types' ctx = .ok (.integer n) :=
    (total_congr hsame sources ctx).trans htotal
  exact ⟨(total_struck types' sources ctx).trans hother, hother⟩

/-- A troll that stops healing after fire or acid, a ring that does not, and a charm that is off. -/
theorem total_after_damage_of_troll :
    let troll : FastHealing :=
      { value := .integer 20, source := "Troll", deactivatedBy := ["fire", "acid"] }
    let ring : FastHealing :=
      { value := .integer 5, source := "Ring", deactivatedBy := ["void"] }
    let charm : FastHealing := { value := .integer 3, source := "Charm", active := false }
    (∀ f ∈ [troll, ring, charm], f.value.IsIntegral) ∧
    total [troll, ring, charm] [] none = .ok (.integer 25) ∧
    total [troll, ring, charm] ["cold", "acid"] none = .ok (.integer 5) ∧
    total (struck ["acid", "cold", "acid"] [troll, ring, charm]) [] none = .ok (.integer 5) := by
  intro troll ring charm
  have hintegral : ∀ f ∈ [troll, ring, charm], f.value.IsIntegral := by decide
  have hsame : ∀ type, type ∈ ["acid", "cold", "acid"] ↔ type ∈ ["cold", "acid"] := by
    intro type
    simp only [List.mem_cons, List.not_mem_nil, or_false]
    exact ⟨by rintro (h | h | h) <;> simp [h], by rintro (h | h) <;> simp [h]⟩
  obtain ⟨n, htotal, hother⟩ := total_after_damage hintegral ["cold", "acid"] none
  have hfive : total [troll, ring, charm] ["cold", "acid"] none = .ok (.integer 5) := rfl
  have hstruck := (hother _ hsame).1
  rw [← htotal, hfive] at hstruck
  exact ⟨hintegral, rfl, hfive, hstruck⟩

end RuleElements.FastHealing
