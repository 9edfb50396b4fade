import Mathlib.Order.Lattice
import RuleElements.Character.Body
import RuleElements.Proofs.Element.Restore
import RuleElements.Proofs.Processing.Accounting

/-!
# Sizes after changes

Sizes are ordered by rank. A change either sets the size, whatever it was, or moves it by some steps
and then keeps it within the bounds of the change. Both respect the order of sizes, so larger
creatures stay at least as large. What is set is not held against the bounds of the same change: a
size is within the bounds of the last change unless that change sets a size beyond them.

Main definitions:
* the order of sizes, as a `LinearOrder`.
* `SizeChange.Ordered`: the bounds of a change do not cross.

Results:
* `Size.change_mono`, `Size.after_mono`: changes respect the order of sizes.
* `Size.change_le_iff`, `Size.le_change_iff`: when a change keeps its bounds.
* `Processing.ordered_of_runRaw`: the bounds of the changes of a pass do not cross.
* `Size.after_bounded_iff`: when sizes are within the bounds of the last change.
-/

namespace RuleElements

namespace Size

theorem rank_injective : Function.Injective rank :=
  Function.LeftInverse.injective (g := fun n : Nat => ofRank n) ofRank_rank

/-- Sizes from the smallest to the largest. -/
instance : LinearOrder Size := LinearOrder.lift' rank rank_injective

theorem le_iff_rank_le {a b : Size} : a ≤ b ↔ a.rank ≤ b.rank := Iff.rfl

end Size

/-- **Bounds that do not cross.** -/
def SizeChange.Ordered (c : SizeChange) : Prop :=
  ∀ least ∈ c.minimumSize, ∀ greatest ∈ c.maximumSize, least ≤ greatest

namespace Size

variable {a b s bound : Size} {c : SizeChange}

/-! ## Steps and bounds -/

/-- Steps respect the order, also where they end at the outermost size. -/
theorem resize_mono (steps : Int) (h : a ≤ b) : a.resize steps ≤ b.resize steps := by
  have ha := rank_ofRank (a.rank + steps)
  have hb := rank_ofRank (b.rank + steps)
  rw [le_iff_rank_le] at h ⊢
  unfold resize
  omega

theorem atMost_some (s bound : Size) : s.atMost (some bound) = min s bound := by
  show (if bound < s then bound else s) = min s bound
  split
  · rename_i h
    exact (min_eq_right h.le).symm
  · rename_i h
    exact (min_eq_left (not_lt.mp h)).symm

theorem atLeast_some (s bound : Size) : s.atLeast (some bound) = max s bound := by
  show (if s < bound then bound else s) = max s bound
  split
  · rename_i h
    exact (max_eq_right h.le).symm
  · rename_i h
    exact (max_eq_left (not_lt.mp h)).symm

theorem atMost_mono (bound : Option Size) (h : a ≤ b) : a.atMost bound ≤ b.atMost bound := by
  cases bound with
  | none => exact h
  | some bound =>
    rw [atMost_some, atMost_some]
    exact min_le_min_right bound h

theorem atLeast_mono (bound : Option Size) (h : a ≤ b) : a.atLeast bound ≤ b.atLeast bound := by
  cases bound with
  | none => exact h
  | some bound =>
    rw [atLeast_some, atLeast_some]
    exact max_le_max_right bound h

theorem atMost_le (s bound : Size) : s.atMost (some bound) ≤ bound := by
  rw [atMost_some]
  exact min_le_right s bound

theorem le_atLeast (s bound : Size) : bound ≤ s.atLeast (some bound) := by
  rw [atLeast_some]
  exact le_max_right s bound

/-- A lower bound does not raise a size above what it and the bound stay below. -/
theorem atLeast_le {least : Option Size} (hs : s ≤ bound) (hleast : ∀ l ∈ least, l ≤ bound) :
    s.atLeast least ≤ bound := by
  cases least with
  | none => exact hs
  | some l =>
    rw [atLeast_some]
    exact max_le hs (hleast l rfl)

/-! ## One change -/

theorem change_of_size {size : Size} (h : c.size = some size) (s : Size) : change s c = size := by
  rw [change, h]

theorem change_of_no_size (h : c.size = none) (s : Size) :
    change s c = ((s.resize c.resizeBy).atMost c.maximumSize).atLeast c.minimumSize := by
  rw [change, h]

/-- **A change respects the order of sizes**, whatever it does. -/
theorem change_mono (c : SizeChange) (h : a ≤ b) : change a c ≤ change b c := by
  cases hsize : c.size with
  | some size => rw [change_of_size hsize, change_of_size hsize]
  | none =>
    rw [change_of_no_size hsize, change_of_no_size hsize]
    exact atLeast_mono _ (atMost_mono _ (resize_mono _ h))

/-- **A change keeps its upper bound** unless it sets a larger size. -/
theorem change_le_iff (hordered : c.Ordered) (hbound : c.maximumSize = some bound) (s : Size) :
    change s c ≤ bound ↔ ∀ size ∈ c.size, size ≤ bound := by
  cases hsize : c.size with
  | some size =>
    rw [change_of_size hsize]
    simp
  | none =>
    refine iff_of_true ?_ nofun
    rw [change_of_no_size hsize, hbound]
    exact atLeast_le (atMost_le _ bound) fun least hleast => hordered least hleast bound hbound

/-- **A change keeps its lower bound** unless it sets a smaller size. -/
theorem le_change_iff (hbound : c.minimumSize = some bound) (s : Size) :
    bound ≤ change s c ↔ ∀ size ∈ c.size, bound ≤ size := by
  cases hsize : c.size with
  | some size =>
    rw [change_of_size hsize]
    simp
  | none =>
    refine iff_of_true ?_ nofun
    rw [change_of_no_size hsize, hbound]
    exact le_atLeast _ bound

/-! ## Any number of changes -/

variable {changes : List SizeChange} {ctx : Option Context}

theorem foldl_change_mono : ∀ (changes : List SizeChange) {a b : Size}, a ≤ b →
    changes.foldl change a ≤ changes.foldl change b
  | [], _, _, h => h
  | c :: rest, _, _, h => foldl_change_mono rest (change_mono c h)

/-- **Changes respect the order of sizes**: of two creatures that undergo the same changes, the
larger one stays at least as large. -/
theorem after_mono (changes : List SizeChange) (ctx : Option Context) {a b : Size} (h : a ≤ b) :
    a.after changes ctx ≤ b.after changes ctx :=
  foldl_change_mono _ h

/-- A change that does not apply has bounds that cross; the others move sizes apart and together. -/
theorem after_mono_of_growth :
    let changes : List SizeChange :=
      [{ resizeBy := 1, minimumSize := some .small, source := "Growth" },
        { minimumSize := some .huge, maximumSize := some .tiny, source := "Knot",
          predicate := some [.option "knotted"] },
        { resizeBy := -100, minimumSize := some .medium, source := "Shrink",
          predicate := some [.option "raging"] },
        { maximumSize := some .large, source := "Cave" }]
    tiny ≤ huge ∧ tiny.after changes (some {}) = .small ∧ huge.after changes (some {}) = .large ∧
      tiny.after changes (some {}) ≤ huge.after changes (some {}) ∧
      tiny.after changes none ≤ huge.after changes none := by
  intro changes
  have h : tiny ≤ huge := by decide
  exact ⟨h, rfl, rfl, after_mono changes (some {}) h, after_mono changes none h⟩

/-- The last change that applies is made to some size. -/
theorem exists_after_eq {last : SizeChange}
    (hlast : (changes.filter (Gated.appliesIn ctx)).getLast? = some last) (base : Size) :
    ∃ s, base.after changes ctx = change s last := by
  obtain ⟨earlier, happlied⟩ := List.getLast?_eq_some_iff.mp hlast
  refine ⟨earlier.foldl change base, ?_⟩
  rw [after, happlied, List.foldl_append]
  rfl

end Size

/-! ## Changes of a pass -/

/-- What is checked when a change of size is read. -/
theorem CreatureSizeRule.boundsCross_eq_false_iff {rule : CreatureSizeRule} :
    rule.boundsCross = false ↔
      ∀ least ∈ rule.minimumSize, ∀ greatest ∈ rule.maximumSize, least ≤ greatest := by
  unfold boundsCross
  cases rule.minimumSize with
  | none => simp
  | some least =>
    cases rule.maximumSize with
    | none => simp
    | some greatest => simp [Size.le_iff_rank_le]

/-- **The bounds of the changes of a pass do not cross.** -/
theorem Processing.ordered_of_runRaw {p : Processing} {rules : List Data} {done : Pass}
    (h : p.runRaw rules = .ok done) {c : SizeChange} (hc : c ∈ done.aggregate.sizeChanges) :
    c.Ordered := by
  have hentry : Entry.sizeChange c ∈ done.aggregate.bucket .creatureSize := List.mem_map_of_mem hc
  obtain ⟨-, ⟨label, predicate, effect⟩, he, hmade⟩ := (mem_bucket_of_run h (by decide)).mp hentry
  obtain ⟨raw, -, hraw⟩ := List.mem_map.mp he
  have hfaults := ParsedElement.faults_of_ofData hraw
  have hkind := RuleElement.kind_of_process hmade
  cases effect <;> try cases hkind
  rename_i rule
  have hapart : rule.boundsCross = false := by
    cases hcross : rule.boundsCross with
    | false => rfl
    | true => simp [Effect.faults, hcross] at hfaults
  cases Attempt.made.inj hmade
  exact CreatureSizeRule.boundsCross_eq_false_iff.mp hapart

namespace Size

/-- **The bounds of the last change.** Of changes that come from passes over payloads, the last one
that applies is what counts: a size that it sets is the size in the end, whatever its bounds are;
and the size in the end is within one of its bounds exactly if it sets none beyond this bound. -/
theorem after_bounded_iff {changes : List SizeChange}
    (h : ∀ c ∈ changes, ∃ (p : Processing) (rules : List Data) (done : Pass),
      p.runRaw rules = .ok done ∧ c ∈ done.aggregate.sizeChanges)
    {ctx : Option Context} {last : SizeChange}
    (hlast : (changes.filter (Gated.appliesIn ctx)).getLast? = some last) (base : Size) :
    (∀ size ∈ last.size, base.after changes ctx = size) ∧
      (∀ bound ∈ last.maximumSize,
        base.after changes ctx ≤ bound ↔ ∀ size ∈ last.size, size ≤ bound) ∧
      ∀ bound ∈ last.minimumSize,
        bound ≤ base.after changes ctx ↔ ∀ size ∈ last.size, bound ≤ size := by
  obtain ⟨s, hafter⟩ := exists_after_eq hlast base
  obtain ⟨p, rules, done, hrun, hmem⟩ :=
    h last (List.mem_of_mem_filter (List.mem_of_getLast? hlast))
  rw [hafter]
  exact ⟨fun size hsize => change_of_size hsize s,
    fun bound hbound => change_le_iff (p.ordered_of_runRaw hrun hmem) hbound s,
    fun bound hbound => le_change_iff hbound s⟩

/-- A giant in a cave: the first change sets a size, and the last one has both bounds. -/
theorem after_bounded_iff_of_cave :
    let p : Processing := { source := "Cave" }
    let rules : List Data :=
      [.object [("key", .text "CreatureSize"), ("value", .text "gargantuan")],
        .object [("key", .text "CreatureSize"), ("resizeBy", .int (-1)),
          ("minimumSize", .text "small"), ("maximumSize", .text "large")]]
    let last : SizeChange :=
      { resizeBy := -1, maximumSize := some .large, minimumSize := some .small, source := "Cave" }
    ∃ done, p.runRaw rules = .ok done ∧
      (done.aggregate.sizeChanges.filter (Gated.appliesIn none)).getLast? = some last ∧
      tiny.after done.aggregate.sizeChanges none = large ∧
      tiny.after done.aggregate.sizeChanges none ≤ large ∧
      small ≤ tiny.after done.aggregate.sizeChanges none := by
  intro p rules last
  obtain ⟨done, hrun, hlast, hafter⟩ : ∃ done, p.runRaw rules = .ok done ∧
      (done.aggregate.sizeChanges.filter (Gated.appliesIn none)).getLast? = some last ∧
      tiny.after done.aggregate.sizeChanges none = large := ⟨_, rfl, rfl, rfl⟩
  obtain ⟨-, hmost, hleast⟩ :=
    after_bounded_iff (fun c hc => ⟨p, rules, done, hrun, hc⟩) hlast tiny
  exact ⟨done, hrun, hlast, hafter, (hmost large rfl).mpr nofun, (hleast small rfl).mpr nofun⟩

/-- A size that is set is not held against the upper bound that is given with it. -/
theorem after_exceeds_bound :
    ¬ ∀ (changes : List SizeChange) (ctx : Option Context) (base : Size) (last : SizeChange),
      (∀ c ∈ changes, ∃ (p : Processing) (rules : List Data) (done : Pass),
        p.runRaw rules = .ok done ∧ c ∈ done.aggregate.sizeChanges) →
      (changes.filter (Gated.appliesIn ctx)).getLast? = some last →
        (∀ bound ∈ last.maximumSize, base.after changes ctx ≤ bound) ∧
          ∀ bound ∈ last.minimumSize, bound ≤ base.after changes ctx := by
  intro hclaim
  let p : Processing := { source := "Form" }
  let rules : List Data :=
    [.object [("key", .text "CreatureSize"), ("value", .text "huge"),
      ("maximumSize", .text "large")]]
  obtain ⟨done, hrun, hchanges⟩ : ∃ done, p.runRaw rules = .ok done ∧
      done.aggregate.sizeChanges =
        [{ size := some .huge, maximumSize := some .large, source := "Form" }] := ⟨_, rfl, rfl⟩
  obtain ⟨hmost, -⟩ := hclaim done.aggregate.sizeChanges none .medium _
    (fun c hc => ⟨p, rules, done, hrun, hc⟩) (by rw [hchanges]; rfl)
  have hafter : medium.after done.aggregate.sizeChanges none = huge := by
    rw [hchanges]
    rfl
  have hle : huge ≤ large := hafter ▸ hmost large rfl
  exact absurd hle (by decide)

end Size

end RuleElements
