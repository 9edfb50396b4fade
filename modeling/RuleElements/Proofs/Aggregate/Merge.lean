import RuleElements.Choice.Toggle
import RuleElements.Proofs.Aggregate.Bucket

/-!
# Merged and filtered aggregates

Joining and filtering go bucket by bucket: the bucket of a merged aggregate is the buckets of the
parts one after the other, and the bucket of a filtered one holds the entries that apply. What an
aggregate puts in force in a context is read off its filtered form.

Main definitions:
* `Entry.predicate`: what gates an entry.
* `Aggregate.offers`: the options that the enabled entries of an aggregate contribute.

Results:
* `Aggregate.eq_of_bucket`: an aggregate is its buckets and its remarks.
* `Aggregate.bucket_filter`, `Aggregate.bucket_merge`: buckets of filtered and merged aggregates.
* `Aggregate.mem_activeOptions`: an option is put in force if an entry that applies offers it.
-/

namespace RuleElements

/-- The predicate that gates an entry. -/
def Entry.predicate : Entry → Option Predicate
  | .modifier e => e.predicate
  | .damageDice e => e.predicate
  | .speed e => e.predicate
  | .sense e => e.predicate
  | .grantedItem e => e.predicate
  | .choicePrompt e => e.predicate
  | .propertyChange e => e.predicate
  | .rollOption e => e.predicate
  | .toggleProperty e => e.predicate
  | .weaponPotency e => e.predicate
  | .striking e => e.predicate
  | .tempHP e => e.predicate
  | .fastHealing e => e.predicate
  | .resistance e => e.predicate
  | .weakness e => e.predicate
  | .immunity e => e.predicate
  | .sizeChange e => e.predicate
  | .traitChange e => e.predicate

instance : Gated Entry := ⟨Entry.predicate⟩

namespace Aggregate

/-- An aggregate is its buckets and its remarks. -/
theorem eq_of_bucket {a b : Aggregate} (h : ∀ k, a.bucket k = b.bucket k)
    (hlogs : a.logs = b.logs) : a = b := by
  have unmap {α : Type} {f : α → Entry} {xs ys : List α} (h : xs.map f = ys.map f)
      (inj : ∀ {x y}, f x = f y → x = y) : xs = ys := (List.map_inj_right @inj).mp h
  cases a
  cases b
  rw [Aggregate.mk.injEq]
  exact ⟨unmap (h .flatModifier) Entry.modifier.inj, unmap (h .damageDice) Entry.damageDice.inj,
    unmap (h .baseSpeed) Entry.speed.inj, unmap (h .sense) Entry.sense.inj,
    unmap (h .grantItem) Entry.grantedItem.inj, unmap (h .choiceSet) Entry.choicePrompt.inj,
    unmap (h .activeEffectLike) Entry.propertyChange.inj,
    unmap (h .rollOption) Entry.rollOption.inj, unmap (h .toggleProperty) Entry.toggleProperty.inj,
    unmap (h .weaponPotency) Entry.weaponPotency.inj, unmap (h .striking) Entry.striking.inj,
    unmap (h .tempHP) Entry.tempHP.inj, unmap (h .fastHealing) Entry.fastHealing.inj,
    unmap (h .resistance) Entry.resistance.inj, unmap (h .weakness) Entry.weakness.inj,
    unmap (h .immunity) Entry.immunity.inj, unmap (h .creatureSize) Entry.sizeChange.inj,
    unmap (h .actorTraits) Entry.traitChange.inj, hlogs⟩

/-! ## Filtering -/

/-- **A filtered aggregate** holds the entries of each bucket that apply. -/
theorem bucket_filter (ctx : Context) (a : Aggregate) (k : Kind) :
    (a.filter ctx).bucket k = (a.bucket k).filter (Gated.applies ctx) := by
  have tag {α : Type} [Gated α] {f : α → Entry} (xs : List α)
      (hf : ∀ x, Gated.applies ctx (f x) = Gated.applies ctx x) :
      (xs.filter (Gated.applies ctx)).map f = (xs.map f).filter (Gated.applies ctx) := by
    rw [List.filter_map]
    exact congrArg (List.map f) (List.filter_congr fun x _ => (hf x).symm)
  cases k <;> first | rfl | exact tag _ fun _ => rfl

/-- Aggregates whose entries that apply are the same have the same filtered form, but for the
remarks. -/
theorem filter_congr {ctx : Context} {a b : Aggregate}
    (h : ∀ k, (a.bucket k).filter (Gated.applies ctx) = (b.bucket k).filter (Gated.applies ctx)) :
    a.filter ctx = { b.filter ctx with logs := a.logs } := by
  refine eq_of_bucket (fun k => ?_) rfl
  rw [bucket_filter, h, ← bucket_filter]
  cases k <;> rfl

/-! ## Merging -/

theorem merge_cons (a : Aggregate) (parts : List Aggregate) :
    merge (a :: parts) = a ++ merge parts := by
  have shift : ∀ (parts : List Aggregate) (start : Aggregate),
      parts.foldl append start = start ++ merge parts := by
    intro parts
    induction parts with
    | nil => exact fun start => (append_empty start).symm
    | cons b rest ih =>
      intro start
      unfold merge
      rw [List.foldl_cons, List.foldl_cons, ih, ih (append empty b)]
      show (start ++ b) ++ merge rest = start ++ ((empty ++ b) ++ merge rest)
      rw [append_assoc, empty_append]
  unfold merge
  rw [List.foldl_cons, shift]
  exact congrArg (· ++ merge parts) (empty_append a)

/-- **The buckets of a merged aggregate** are those of the parts, one after the other. -/
theorem bucket_merge (k : Kind) : ∀ parts : List Aggregate,
    (merge parts).bucket k = parts.flatMap (·.bucket k)
  | [] => bucket_empty k
  | a :: rest => by rw [merge_cons, bucket_append, bucket_merge k rest, List.flatMap_cons]

/-! ## Options -/

/-- The options that the enabled entries of an aggregate contribute: those of its roll options, and
those of its switched properties that are on. -/
def offers (a : Aggregate) : List String :=
  (a.rollOptions.filter (·.enabled)).map (·.option) ++ a.toggleProperties.flatMap (·.options)

/-- The options that are put in force in a context are those that the entries that apply there
contribute. -/
theorem activeOptions_eq (a : Aggregate) (ctx : Context) :
    a.activeOptions ctx = (a.filter ctx).offers.eraseDups := by
  have hactive : a.rollOptions.filter (·.isActive ctx) =
      (a.filter ctx).rollOptions.filter (·.enabled) := (List.filter_filter ..).symm
  unfold activeOptions
  rw [hactive]
  rfl

/-- **An option is put in force** in a context if an enabled entry that applies contributes it. -/
theorem mem_activeOptions {a : Aggregate} {ctx : Context} {option : String} :
    option ∈ a.activeOptions ctx ↔ option ∈ (a.filter ctx).offers := by
  rw [activeOptions_eq, List.mem_eraseDups]

/-- Aggregates of which the same applies in a context put the same options in force there. -/
theorem activeOptions_congr {ctx : Context} {a b : Aggregate}
    (h : ∀ k, (a.bucket k).filter (Gated.applies ctx) = (b.bucket k).filter (Gated.applies ctx)) :
    a.activeOptions ctx = b.activeOptions ctx := by
  rw [activeOptions_eq, activeOptions_eq, filter_congr h]
  rfl

end Aggregate

end RuleElements
