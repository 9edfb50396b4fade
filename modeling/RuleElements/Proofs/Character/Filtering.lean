import RuleElements.Character.Body
import RuleElements.Character.Damage
import RuleElements.Character.Property

/-!
# Filtering before reading

Entries can be read in a context, which leaves out those that do not apply, or they can be filtered
once and then read without any context. Both give the same, whatever else a reading asks of an entry
and in whatever order it asks: the predicate of an entry is one part of the test that the entry has
to pass, and no other part looks at the context.

Main definitions:
* `Gated.Conjunct`: a test of entries of which the predicate is one part.
* `Gated.FilterFirst`: a reading of entries that can as well be done after filtering.

Results:
* `Gated.Conjunct.filterFirst`: whatever is made of the entries that pass such a test.
* `Aggregate.filtering_first`: all readings of a character's entries.
-/

namespace RuleElements

namespace Gated

variable {α β : Type} [Gated α]

/-- Without a context everything applies, so `test none` is what a test asks besides the predicate.
-/
def Conjunct (test : Option Context → α → Bool) : Prop :=
  ∀ ctx entry, test (some ctx) entry = (applies ctx entry && test none entry)

/-- Reading entries in a context is reading those of them that apply, without a context. -/
def FilterFirst (read : List α → Option Context → β) : Prop :=
  ∀ ctx entries, read entries (some ctx) = read (entries.filter (applies ctx)) none

theorem conjunct_appliesIn : Conjunct (appliesIn (α := α)) := fun ctx entry =>
  (Bool.and_true (applies ctx entry)).symm

/-- Further tests without the context may be made before the predicate is tested. -/
theorem Conjunct.after {test : Option Context → α → Bool} (h : Conjunct test) (p : α → Bool) :
    Conjunct fun ctx entry => p entry && test ctx entry := by
  intro ctx entry
  simp only [h ctx entry, Bool.and_left_comm]

/-- Further tests without the context may be made after the predicate is tested. -/
theorem Conjunct.before {test : Option Context → α → Bool} (h : Conjunct test) (p : α → Bool) :
    Conjunct fun ctx entry => test ctx entry && p entry := by
  intro ctx entry
  simp only [h ctx entry, Bool.and_assoc]

/-- **Whatever is made of the entries that pass a test**, filtering can come first. -/
theorem Conjunct.filterFirst {test : Option Context → α → Bool} (h : Conjunct test)
    (make : List α → β) : FilterFirst fun entries ctx => make (entries.filter (test ctx)) := by
  intro ctx entries
  have hpassing : entries.filter (test (some ctx)) =
      (entries.filter (applies ctx)).filter (test none) := by
    rw [List.filter_filter]
    exact List.filter_congr fun entry _ => by rw [h ctx entry, Bool.and_comm]
  exact congrArg make hpassing

end Gated

open Gated

/-! ## The readings of a character's entries -/

theorem Speed.highest_filterFirst (type : Option String) :
    FilterFirst fun speeds ctx => highest speeds ctx type := by
  have htest : Conjunct fun ctx (s : Speed) => appliesIn ctx s && type.all (s.type == ·) :=
    conjunct_appliesIn.before _
  exact htest.filterFirst fun speeds =>
    (Number.maximum? (speeds.map (·.value))).getD (.integer 0)

theorem Speed.byType_filterFirst : FilterFirst byType :=
  conjunct_appliesIn.filterFirst fun speeds => speeds.foldl improve []

theorem DamageDice.pools_filterFirst (selector : Option String) :
    FilterFirst fun dice ctx => pools dice selector ctx := by
  have htest : Conjunct fun ctx d => counts ctx selector d :=
    (conjunct_appliesIn.after DamageDice.enabled).before fun d => selector.all (d.selector == ·)
  exact htest.filterFirst fun dice => dice.foldl gather []

theorem Sense.active_filterFirst : FilterFirst active :=
  (conjunct_appliesIn.after Sense.enabled).filterFirst id

/-- A grant is redundant because of those kept before it, and these apply themselves. -/
theorem GrantedItem.active_filterFirst : FilterFirst active :=
  conjunct_appliesIn.filterFirst fun items => items.foldl keep []

theorem Striking.totalDice_filterFirst (base : Int) : FilterFirst (totalDice base) :=
  conjunct_appliesIn.filterFirst fun (strikings : List Striking) =>
    base + ((strikings.map (·.extraDice)).max?).getD 0

theorem TempHP.active_filterFirst : FilterFirst active :=
  conjunct_appliesIn.filterFirst fun sources => sources.foldl keepBest none

theorem FastHealing.total_filterFirst (recent : List String) :
    FilterFirst fun sources ctx => total sources recent ctx := by
  have htest : Conjunct (heals recent) :=
    (conjunct_appliesIn.after FastHealing.active).before fun f =>
      !f.deactivatedBy.any recent.contains
  exact htest.filterFirst fun sources => Number.sum (sources.map (·.value))

theorem Resistance.against_filterFirst (damageType : String) (source : Option String) :
    FilterFirst fun resistances ctx => against resistances damageType source ctx := by
  have htest : Conjunct fun ctx r => resists ctx damageType source r :=
    (conjunct_appliesIn.before fun (r : Resistance) => coversDamage r.types damageType).before
      fun r => !source.any fun name => name != "" && r.exceptions.contains name
  exact htest.filterFirst fun resistances =>
    (resistances.map (·.value)).foldl Number.larger (.integer 0)

theorem Weakness.against_filterFirst (damageType : String) :
    FilterFirst fun weaknesses ctx => against weaknesses damageType ctx := by
  have htest : Conjunct fun ctx (w : Weakness) =>
      appliesIn ctx w && coversDamage w.types damageType := conjunct_appliesIn.before _
  exact htest.filterFirst fun weaknesses =>
    (weaknesses.map (·.value)).foldl Number.larger (.integer 0)

theorem Size.after_filterFirst (base : Size) : FilterFirst base.after :=
  conjunct_appliesIn.filterFirst fun changes => changes.foldl change base

/-- The word of a size is looked up before the changes are read. -/
theorem Size.afterWord_filterFirst (word : String) : FilterFirst (afterWord word) := by
  intro ctx changes
  unfold afterWord
  cases (Worded.ofWord? word : Option Size) with
  | some base => exact congrArg Except.ok (after_filterFirst base ctx changes)
  | none => exact conjunct_appliesIn.filterFirst (afterUnknown word) ctx changes

theorem Trait.final_filterFirst (base : List String) : FilterFirst (final base) :=
  conjunct_appliesIn.filterFirst fun changes =>
    sortedTexts (changes.foldl change (base.map Text.lower))

namespace Aggregate

/-- Modifiers are still tested in the context after filtering, which finds them all in force. -/
theorem modifiersFor_filter (a : Aggregate) (ctx : Context) (selector : String)
    (included : List String) :
    (a.filter ctx).modifiersFor (some ctx) selector included =
      a.modifiersFor (some ctx) selector included := by
  unfold modifiersFor filter Modifier.isInForce
  rw [List.filter_filter]
  refine List.filter_congr fun m _ => ?_
  cases hctx : applies ctx m <;> simp [hctx]

/-- **Filtering first and reading in a context are the same**, for each reading of entries in a
context and for the totals of modifiers. -/
theorem filtering_first :
    (∀ type, FilterFirst fun speeds ctx => Speed.highest speeds ctx type) ∧
    FilterFirst Speed.byType ∧
    (∀ selector, FilterFirst fun dice ctx => DamageDice.pools dice selector ctx) ∧
    FilterFirst Sense.active ∧
    FilterFirst GrantedItem.active ∧
    (∀ base, FilterFirst (Striking.totalDice base)) ∧
    FilterFirst TempHP.active ∧
    (∀ recent, FilterFirst fun sources ctx => FastHealing.total sources recent ctx) ∧
    (∀ damageType source, FilterFirst fun resistances ctx =>
      Resistance.against resistances damageType source ctx) ∧
    (∀ damageType, FilterFirst fun weaknesses ctx => Weakness.against weaknesses damageType ctx) ∧
    (∀ base, FilterFirst (Size.after base)) ∧
    (∀ word, FilterFirst (Size.afterWord word)) ∧
    (∀ base, FilterFirst (Trait.final base)) ∧
    ∀ (a : Aggregate) (ctx : Context) (selector : String) (included : List String),
      (a.filter ctx).totalOf (some ctx) selector included =
        a.totalOf (some ctx) selector included := by
  refine ⟨Speed.highest_filterFirst, Speed.byType_filterFirst, DamageDice.pools_filterFirst,
    Sense.active_filterFirst, GrantedItem.active_filterFirst, Striking.totalDice_filterFirst,
    TempHP.active_filterFirst, FastHealing.total_filterFirst, Resistance.against_filterFirst,
    Weakness.against_filterFirst, Size.after_filterFirst, Size.afterWord_filterFirst,
    Trait.final_filterFirst, ?_⟩
  intro a ctx selector included
  unfold totalOf
  rw [modifiersFor_filter]

end Aggregate

end RuleElements
