import Mathlib.Data.List.Flatten
import Mathlib.Data.Multiset.Defs
import RuleElements.Proofs.Aggregate.Merge
import RuleElements.Proofs.Processing.Accounting

/-!
# Potency runes and the pool of modifiers

A potency rune stands in two places: as an entry of its own, and with its two modifiers in the pool.
Adjustments change the modifiers of the pool, and filtering goes through both places on its own. The
two stay in step, since adjustments keep what modifiers are recognised by, and a rune and its
modifiers are gated together.

Main definitions:
* `Modifier.tag`: what a modifier is recognised by.
* `WeaponPotency.Regular`: what holds of every rune on its own.
* `Aggregate.InStep`: the invariant.
* `Aggregate.Obtainable`: what passes, merging and filtering give.

Results:
* `Processing.inStep_of_run`, `Aggregate.InStep.append`, `Aggregate.InStep.filter`: each operation
  keeps the invariant.
* `Aggregate.Obtainable.runes_pooled`: the runes of an aggregate and their modifiers in its pool.
-/

namespace RuleElements

/-- What a modifier is recognised by: its label, its selector and its predicate. -/
def Modifier.tag (m : Modifier) : String × String × Option Predicate :=
  (m.label, m.selector, m.predicate)

/-- The modifiers of a rune, that to attacks first. -/
def WeaponPotency.modifiers (w : WeaponPotency) : List Modifier :=
  [w.attackModifier, w.damageModifier]

/-- **A regular rune**: its potency is from one to three, and its two modifiers are of type item,
have the potency for their value and are gated as the rune is. -/
structure WeaponPotency.Regular (w : WeaponPotency) : Prop where
  bounds : 1 ≤ w.potency ∧ w.potency ≤ 3
  type : ∀ m ∈ w.modifiers, m.type = .item
  value : ∀ m ∈ w.modifiers, m.value = .integer w.potency
  gate : ∀ m ∈ w.modifiers, m.predicate = w.predicate

theorem clamp_bounds {least greatest : Int} (h : least ≤ greatest) (n : Int) :
    least ≤ clamp least greatest n ∧ clamp least greatest n ≤ greatest := by
  unfold clamp
  omega

/-- **A rule element gives regular runes only.** -/
theorem RuleElement.regular_of_process {p : Processing} {e : RuleElement} {w : WeaponPotency}
    (h : e.process p = .made (.weaponPotency w)) : w.Regular := by
  have hkind := RuleElement.kind_of_process h
  obtain ⟨label, predicate, effect⟩ := e
  cases effect <;> try cases hkind
  rename_i rule
  obtain ⟨potency, hrank, hw⟩ := Attempt.map_eq_made.mp h
  obtain ⟨n, -, hclamp⟩ := Attempt.andThen_eq_made.mp hrank
  obtain ⟨m, -, rfl⟩ := Attempt.map_eq_made.mp hclamp
  cases hw
  exact ⟨clamp_bounds (by decide) m, by simp [WeaponPotency.modifiers],
    by simp [WeaponPotency.modifiers], by simp [WeaponPotency.modifiers]⟩

/-- The modifiers of a regular rune apply if it does, and else none of them. -/
theorem WeaponPotency.Regular.modifiers_filter {w : WeaponPotency} (h : w.Regular) (c : Context) :
    w.modifiers.filter (Gated.applies c) = if Gated.applies c w then w.modifiers else [] := by
  have hgate : ∀ m ∈ w.modifiers, Gated.applies c m = Gated.applies c w := fun m hm =>
    congrArg (Predicate.holdsIn c) (h.gate m hm)
  rw [List.filter_congr hgate]
  cases Gated.applies c w with
  | true => exact List.filter_eq_self.mpr fun _ _ => rfl
  | false => exact List.filter_eq_nil_iff.mpr fun _ _ => Bool.false_ne_true

namespace Aggregate

/-- The modifiers that the runes of an aggregate hold, in order. -/
def runeModifiers (a : Aggregate) : List Modifier := a.weaponPotencies.flatMap (·.modifiers)

/-- **Runes and pool are in step**: all runes are regular, and the tags of their modifiers stand in
the pool, in order. -/
structure InStep (a : Aggregate) : Prop where
  regular : ∀ w ∈ a.weaponPotencies, w.Regular
  pooled : (a.runeModifiers.map Modifier.tag).Sublist (a.modifiers.map Modifier.tag)

namespace InStep

variable {a b : Aggregate}

theorem empty : Aggregate.empty.InStep := ⟨fun _ hw => absurd hw List.not_mem_nil, .slnil⟩

/-- Joining keeps runes and pool in step. -/
theorem append (ha : a.InStep) (hb : b.InStep) : (a ++ b).InStep where
  regular w hw := (List.mem_append.mp hw).elim (ha.regular w) (hb.regular w)
  pooled := by
    have hrunes : (a ++ b).runeModifiers = a.runeModifiers ++ b.runeModifiers :=
      List.flatMap_append
    rw [hrunes, modifiers_append, List.map_append, List.map_append]
    exact ha.pooled.append hb.pooled

theorem merge : ∀ {parts : List Aggregate}, (∀ a ∈ parts, a.InStep) → (merge parts).InStep
  | [], _ => empty
  | a :: rest, h => by
    obtain ⟨ha, hrest⟩ := List.forall_mem_cons.mp h
    rw [merge_cons]
    exact ha.append (merge hrest)

/-- The modifiers of the runes that apply are those that apply of all runes. -/
theorem runeModifiers_filter (h : ∀ w ∈ a.weaponPotencies, w.Regular) (c : Context) :
    (a.filter c).runeModifiers = a.runeModifiers.filter (Gated.applies c) := by
  show (a.weaponPotencies.filter (Gated.applies c)).flatMap _ = List.filter _ (List.flatMap _ _)
  generalize a.weaponPotencies = ws at h
  induction ws with
  | nil => rfl
  | cons w ws ih =>
    obtain ⟨hw, hws⟩ := List.forall_mem_cons.mp h
    rw [List.flatMap_cons, List.filter_append, hw.modifiers_filter c, ← ih hws, List.filter_cons]
    split <;> rfl

/-- Filtering keeps runes and pool in step: it looks at a modifier only through its tag. -/
theorem filter (h : a.InStep) (c : Context) : (a.filter c).InStep where
  regular w hw := h.regular w (List.mem_filter.mp hw).1
  pooled := by
    have htags : ∀ ms : List Modifier, (ms.filter (Gated.applies c)).map Modifier.tag =
        (ms.map Modifier.tag).filter fun tag => Predicate.holdsIn c tag.2.2 := by
      intro ms
      rw [List.filter_map]
      rfl
    have hpool : (a.filter c).modifiers = a.modifiers.filter (Gated.applies c) := rfl
    rw [runeModifiers_filter h.regular, hpool, htags, htags]
    exact h.pooled.filter _

end InStep

end Aggregate

/-- The modifiers of the runes are those that the entries of their bucket add to the pool. -/
theorem Aggregate.runeModifiers_eq (a : Aggregate) :
    a.runeModifiers = (a.bucket .weaponPotency).flatMap Entry.modifiers :=
  (List.flatMap_map Entry.weaponPotency Entry.modifiers a.weaponPotencies).symm

/-- Modifiers with the same outlines have the same tags. -/
theorem Modifier.map_tag_of_outline {ms ns : List Modifier}
    (h : ms.map Modifier.outline = ns.map Modifier.outline) :
    ms.map Modifier.tag = ns.map Modifier.tag := by
  have htags := congrArg (List.map Modifier.tag) h
  rwa [List.map_map, List.map_map] at htags

/-- **A pass puts the modifiers of its runes into the pool**, where adjustments keep their tags. -/
theorem Processing.inStep_of_run {p : Processing} {elements : List ParsedElement} {done : Pass}
    (h : p.run elements = .ok done) : done.aggregate.InStep := by
  obtain ⟨cs, hcs⟩ := runFrom_account h
  have hrunes := hcs.bucket .weaponPotency (by decide)
  rw [hcs.entries_eq] at hrunes
  refine ⟨fun w hw => ?_, ?_⟩
  · have hentry : Entry.weaponPotency w ∈ done.aggregate.bucket .weaponPotency :=
      List.mem_map_of_mem hw
    rw [hrunes] at hentry
    obtain ⟨e, -, he⟩ := List.mem_filterMap.mp (List.mem_filter.mp hentry).1
    cases e with
    | unrecognized payload => cases he
    | known e => exact RuleElement.regular_of_process (Attempt.result?_eq_some.mp he)
  · have hpool := hcs.modifiers_outline
    rw [hcs.entries_eq] at hpool
    rw [Aggregate.runeModifiers_eq, hrunes, Modifier.map_tag_of_outline hpool]
    exact (List.filter_sublist.flatMap _).map _

namespace Aggregate

/-- **The aggregates that passes over rule elements give**, merged and filtered in any way. -/
inductive Obtainable : Aggregate → Prop
  | processed {p : Processing} {elements : List ParsedElement} {done : Pass}
      (h : p.run elements = .ok done) : Obtainable done.aggregate
  | merged {parts : List Aggregate} (h : ∀ a ∈ parts, Obtainable a) : Obtainable (merge parts)
  | filtered {a : Aggregate} (c : Context) (h : Obtainable a) : Obtainable (a.filter c)

theorem Obtainable.inStep {a : Aggregate} (h : a.Obtainable) : a.InStep := by
  induction h with
  | processed h => exact Processing.inStep_of_run h
  | merged _ ih => exact InStep.merge ih
  | filtered c _ ih => exact ih.filter c

/-- **Runes stay in step with the pool** of modifiers, whatever passes, merging and filtering an
aggregate comes from. The tags of their modifiers are contained in those of the pool, each as often;
and every rune has a potency from one to three, which is the value of its two modifiers. -/
theorem Obtainable.runes_pooled {a : Aggregate} (h : a.Obtainable) :
    (↑(a.runeModifiers.map Modifier.tag) : Multiset (String × String × Option Predicate)) ≤
        ↑(a.modifiers.map Modifier.tag) ∧
      ∀ w ∈ a.weaponPotencies, (1 ≤ w.potency ∧ w.potency ≤ 3) ∧
        ∀ m ∈ [w.attackModifier, w.damageModifier],
          m.type = .item ∧ m.value = .integer w.potency := by
  refine ⟨Multiset.coe_le.mpr h.inStep.pooled.subperm, fun w hw => ?_⟩
  have hregular := h.inStep.regular w hw
  exact ⟨hregular.bounds, fun m hm => ⟨hregular.type m hm, hregular.value m hm⟩⟩

/-- A rune that an adjustment follows, merged with a rune of another source that is filtered out. -/
theorem Obtainable.runes_pooled_of_sword :
    let rune (predicate : Option Predicate) (potency : Int) : ParsedElement :=
      .known ⟨none, predicate, .weaponPotency ⟨.number (.integer potency), none⟩⟩
    let boost : ParsedElement := .known ⟨none, none, .adjustModifier
      ⟨"strike-damage", none, none, some (.number (.integer 4))⟩⟩
    ∃ sword axe, Processing.run { source := "Sword" } [rune none 5, boost] = .ok sword ∧
      Processing.run { source := "Axe" } [rune (some [.option "raging"]) 1] = .ok axe ∧
      let a := (merge [sword.aggregate, axe.aggregate]).filter {}
      a.Obtainable ∧
        a.modifiers.map (fun m => (m.tag, m.value)) =
          [(("+3 Weapon Potency", "strike-attack-roll", none), .integer 3),
            (("+3 Weapon Potency", "strike-damage", none), .integer 7)] ∧
        (↑(a.runeModifiers.map Modifier.tag) : Multiset (String × String × Option Predicate)) ≤
          ↑(a.modifiers.map Modifier.tag) ∧
        a.weaponPotencies.map (·.potency) = [3] ∧
        ∀ w ∈ a.weaponPotencies, (1 ≤ w.potency ∧ w.potency ≤ 3) ∧
          ∀ m ∈ [w.attackModifier, w.damageModifier],
            m.type = .item ∧ m.value = .integer w.potency := by
  intro rune boost
  refine ⟨_, _, rfl, rfl, ?_⟩
  intro a
  have h : a.Obtainable := .filtered _ <| .merged fun part hpart => by
    rcases List.mem_cons.mp hpart with rfl | hpart
    · exact .processed (show Processing.run { source := "Sword" } [rune none 5, boost] = .ok _
        from rfl)
    · cases List.mem_singleton.mp hpart
      exact .processed (show Processing.run { source := "Axe" }
        [rune (some [.option "raging"]) 1] = .ok _ from rfl)
  obtain ⟨hpooled, hrunes⟩ := h.runes_pooled
  exact ⟨h, rfl, hpooled, rfl, hrunes⟩

end Aggregate

end RuleElements
