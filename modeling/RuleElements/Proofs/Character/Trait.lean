import Mathlib.Data.List.Induction
import RuleElements.Character.Body
import RuleElements.Proofs.Predicate.Agreement
import RuleElements.Proofs.Text.Sorted

/-!
# Changes of traits

Each change takes away before it adds, so in general the order of changes counts. It does not where
no trait is both added and taken away: then the traits that are left are those of the base that no
change takes away, and those that a change adds.

Changes that undo each other have to be read from the end: whether a trait is there is settled by
the last change that mentions it, whatever came before. Within a change, adding wins, since it comes
after taking away.

Main definitions:
* `Trait.Apart`: no trait is both added and taken away.
* `TraitChange.Mentions`: a change adds a trait or takes it away.
* `Trait.lastMention?`: the last of some changes that mentions a trait.

Results:
* `Trait.mem_foldl_change`, `Trait.final_perm`: changes that do not undo each other, in any order.
* `Trait.mem_foldl_change_iff`, `Trait.final_last_mention`: any changes.
-/

namespace RuleElements

/-! ## Changes in any order -/

namespace Trait

/-- **Changes that do not undo each other**: no trait is added by one and taken away by one,
whatever the case of the letters. -/
def Apart (changes : List TraitChange) : Prop :=
  ∀ c ∈ changes, ∀ d ∈ changes, ∀ t ∈ c.add.map Text.lower, t ∉ d.remove.map Text.lower

instance (changes : List TraitChange) : Decidable (Apart changes) :=
  inferInstanceAs (Decidable (∀ c ∈ changes, ∀ d ∈ changes, ∀ t ∈ c.add.map Text.lower,
    t ∉ d.remove.map Text.lower))

/-- A change takes away, then adds. -/
theorem mem_change {traits : List String} {c : TraitChange} {t : String} :
    t ∈ change traits c ↔
      (t ∈ traits ∧ t ∉ c.remove.map Text.lower) ∨ t ∈ c.add.map Text.lower := by
  unfold change takeAway
  simp only [List.mem_append, List.mem_filter, Bool.not_eq_true', List.contains_eq_mem,
    decide_eq_false_iff_not]

/-- **The traits after changes that do not undo each other.** -/
theorem mem_foldl_change {t : String} : ∀ {changes : List TraitChange} {traits : List String},
    Apart changes → (t ∈ changes.foldl change traits ↔
      (t ∈ traits ∧ ∀ c ∈ changes, t ∉ c.remove.map Text.lower) ∨
        ∃ c ∈ changes, t ∈ c.add.map Text.lower)
  | [], traits, _ => by simp
  | c :: rest, traits, hapart => by
    have hrest : Apart rest := fun d hd e he =>
      hapart d (List.mem_cons_of_mem _ hd) e (List.mem_cons_of_mem _ he)
    -- what the first change adds, none of the others takes away
    have hkept : t ∈ c.add.map Text.lower → ∀ d ∈ rest, t ∉ d.remove.map Text.lower :=
      fun ht d hd => hapart c List.mem_cons_self d (List.mem_cons_of_mem _ hd) t ht
    rw [List.foldl_cons, mem_foldl_change hrest, mem_change]
    simp only [List.forall_mem_cons, List.exists_mem_cons_iff]
    constructor
    · rintro (⟨⟨ht, hc⟩ | hadd, hall⟩ | hlater)
      · exact .inl ⟨ht, hc, hall⟩
      · exact .inr (.inl hadd)
      · exact .inr (.inr hlater)
    · rintro (⟨ht, hc, hall⟩ | hadd | hlater)
      · exact .inl ⟨.inl ⟨ht, hc⟩, hall⟩
      · exact .inl ⟨.inr hadd, hkept hadd⟩
      · exact .inr hlater

/-- Changes in another order do not undo each other either. -/
theorem Apart.perm {changes changes' : List TraitChange} (h : Apart changes)
    (hperm : changes.Perm changes') : Apart changes' := fun c hc d hd =>
  h c (hperm.mem_iff.mpr hc) d (hperm.mem_iff.mpr hd)

/-- **The order of changes that do not undo each other does not matter.** -/
theorem final_perm {base : List String} {changes changes' : List TraitChange}
    {ctx ctx' : Context} (hapart : Apart changes) (hperm : changes.Perm changes')
    (halike : ctx.Alike ctx') :
    final base changes (some ctx) = final base changes' (some ctx') := by
  have hfilter : (changes.filter (Gated.applies ctx)).Perm
      (changes'.filter (Gated.applies ctx')) := by
    rw [← Gated.applies_of_alike halike]
    exact hperm.filter _
  have happlied : Apart (changes.filter (Gated.applies ctx)) := fun c hc d hd =>
    hapart c (List.mem_filter.mp hc).1 d (List.mem_filter.mp hd).1
  refine sortedTexts_congr fun t => ?_
  show t ∈ (changes.filter (Gated.applies ctx)).foldl change _ ↔
    t ∈ (changes'.filter (Gated.applies ctx')).foldl change _
  rw [mem_foldl_change happlied, mem_foldl_change (happlied.perm hfilter)]
  simp only [hfilter.mem_iff]

end Trait

/-! ## The last mention of a trait -/

/-- **A change mentions a trait** if it adds it or takes it away, in any case of the letters. -/
def TraitChange.Mentions (c : TraitChange) (t : String) : Prop :=
  t ∈ c.add.map Text.lower ∨ t ∈ c.remove.map Text.lower

instance (c : TraitChange) (t : String) : Decidable (c.Mentions t) :=
  inferInstanceAs (Decidable (_ ∨ _))

namespace Trait

variable {traits : List String} {changes : List TraitChange} {c : TraitChange} {t : String}

/-! ### One change -/

/-- Of the traits that a change mentions, those are there that it adds. -/
theorem mem_change_of_mentions (h : c.Mentions t) :
    t ∈ change traits c ↔ t ∈ c.add.map Text.lower := by
  rw [mem_change]
  refine ⟨?_, .inr⟩
  rintro (⟨-, hkept⟩ | hadded)
  · exact h.resolve_right hkept
  · exact hadded

/-- Other traits stay as they are. -/
theorem mem_change_of_not_mentions (h : ¬ c.Mentions t) : t ∈ change traits c ↔ t ∈ traits := by
  obtain ⟨hadd, hremove⟩ := not_or.mp h
  rw [mem_change, or_iff_left hadd, and_iff_left hremove]

/-! ### Any number of changes -/

/-- **The last change that mentions a trait.** -/
def lastMention? (changes : List TraitChange) (t : String) : Option TraitChange :=
  (changes.filter (·.Mentions t)).getLast?

theorem lastMention?_concat_of_mentions (h : c.Mentions t) :
    lastMention? (changes ++ [c]) t = some c := by
  simp [lastMention?, h]

theorem lastMention?_concat_of_not_mentions (h : ¬ c.Mentions t) :
    lastMention? (changes ++ [c]) t = lastMention? changes t := by
  simp [lastMention?, h]

theorem lastMention?_eq_none_iff :
    lastMention? changes t = none ↔ ∀ c ∈ changes, ¬ c.Mentions t := by
  simp [lastMention?]

/-- **The traits after any number of changes**, by induction from the last one. -/
theorem mem_foldl_change_iff : t ∈ changes.foldl change traits ↔
    (∃ c, lastMention? changes t = some c ∧ t ∈ c.add.map Text.lower) ∨
      lastMention? changes t = none ∧ t ∈ traits := by
  induction changes using List.reverseRecOn with
  | nil => simp [lastMention?]
  | append_singleton earlier c ih =>
    rw [List.foldl_append, List.foldl_cons, List.foldl_nil]
    by_cases h : c.Mentions t
    · rw [mem_change_of_mentions h, lastMention?_concat_of_mentions h]
      simp
    · rw [mem_change_of_not_mentions h, lastMention?_concat_of_not_mentions h, ih]

/-- A change that takes away what it adds, and a later one that takes away a trait of the base. -/
example :
    let rite : TraitChange := { add := ["Undead"], remove := ["HUMAN", "undead"], source := "Rite" }
    let curse : TraitChange := { add := ["Cold"], remove := ["elf"], source := "Curse" }
    [rite, curse].foldl change ["human", "elf", "giant"] = ["giant", "undead", "cold"] := by
  decide +kernel

/-- **The final traits: the last mention wins.** They are in order, each once. A trait is among them
if and only if the last change that applies and mentions it adds it, or no change that applies
mentions it and it is a trait of the base. -/
theorem final_last_mention (base : List String) (changes : List TraitChange)
    (ctx : Option Context) :
    (final base changes ctx).Pairwise (· < ·) ∧ ∀ t, t ∈ final base changes ctx ↔
      (∃ c, lastMention? (changes.filter (Gated.appliesIn ctx)) t = some c ∧
        t ∈ c.add.map Text.lower) ∨
      (∀ c ∈ changes.filter (Gated.appliesIn ctx), ¬ c.Mentions t) ∧ t ∈ base.map Text.lower := by
  refine ⟨sortedTexts_increasing _, fun t => ?_⟩
  rw [final, mem_sortedTexts, mem_foldl_change_iff, lastMention?_eq_none_iff]

end Trait

end RuleElements
