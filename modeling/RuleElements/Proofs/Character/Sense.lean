import RuleElements.Character.Body
import RuleElements.Proofs.Fields

/-!
# Which senses are kept

Of the senses of a type one is kept. A further sense takes its place if it reaches farther, and also
if it is sharper, however near it reaches. So the longest range is kept only as long as nothing
sharper comes after the best sense, and the order of the senses matters as soon as one sense reaches
farthest and another one is the sharpest.

Main definitions:
* `Sense.IsBest`: a sense of the longest range, and the sharpest of that range; no range (`none`)
  is below every other.
* `Sense.keepBetter`: the kept sense of a type, with a further one taken in.

Results:
* `Sense.consolidate_ofType`: the kept sense of a type depends on the senses of that type only.
* `Sense.exists_split_of_kept`: no sense after the kept one improves on it.
* `Sense.sameMerit_of_split`: a best sense with nothing sharper after it settles range and acuity.
* `Sense.consolidate_isBest_iff`: when the best sense is kept, and when in every order.
* `Sense.consolidate_keeps_shorter`: senses of which the best one is not kept.
-/

namespace RuleElements

theorem Acuity.rank_injective : Function.Injective Acuity.rank := by
  intro a b h
  cases a <;> cases b <;> first | rfl | cases h

namespace Sense

/-- The senses of a type. -/
def ofType (senses : List Sense) (type : String) : List Sense := senses.filter (·.type == type)

/-- **The best of some senses**: none reaches farther, and of those that reach as far none is
sharper. -/
structure IsBest (senses : List Sense) (s : Sense) : Prop where
  mem : s ∈ senses
  longest : ∀ t ∈ senses, t.range ≤ s.range
  sharpest : ∀ t ∈ senses, t.range = s.range → t.acuity.rank ≤ s.acuity.rank

/-- Senses of the same range and acuity. -/
def SameMerit (s t : Sense) : Prop := s.range = t.range ∧ s.acuity = t.acuity

/-- The kept sense, with a further one taken in. -/
def keepBetter (kept : Option Sense) (s : Sense) : Option Sense :=
  some (kept.elim s fun current => if s.improves current then s else current)

/-- What is kept of some senses of one type. -/
def kept? (senses : List Sense) : Option Sense := senses.foldl keepBetter none

/-! ## One sense and another -/

theorem range_antisymm {a b : Option Int} (hab : a ≤ b) (hba : b ≤ a) : a = b := by
  cases a with
  | none => exact (Option.le_none.mp hba).symm
  | some m =>
    cases b with
    | none => exact Option.le_none.mp hab
    | some n =>
      have heq : m = n :=
        Int.le_antisymm (Option.some_le_some.mp hab) (Option.some_le_some.mp hba)
      exact congrArg some heq

theorem outranges_eq_false_iff {s t : Sense} : s.outranges t = false ↔ s.range ≤ t.range := by
  unfold outranges
  cases s.range <;> cases t.range <;> simp

theorem improves_self (s : Sense) : s.improves s = false := by
  unfold improves outranges
  cases s.range <;> simp

/-- **What does not improve on a sense** neither reaches farther nor is sharper. -/
theorem improves_eq_false_iff {s t : Sense} :
    s.improves t = false ↔ s.range ≤ t.range ∧ s.acuity.rank ≤ t.acuity.rank := by
  unfold improves
  rw [Bool.or_eq_false_iff, outranges_eq_false_iff, decide_eq_false_iff_not, Nat.not_lt]

/-- A sense of the same range and acuity as the best one is best as well. -/
theorem IsBest.of_sameMerit {senses : List Sense} {s t : Sense} (h : IsBest senses s)
    (ht : t ∈ senses) (hsame : SameMerit t s) : IsBest senses t where
  mem := ht
  longest u hu := hsame.1 ▸ h.longest u hu
  sharpest u hu hrange := hsame.2 ▸ h.sharpest u hu (hrange.trans hsame.1)

/-! ## Of each type one -/

/-- A further sense counts for its own type. -/
theorem get?_keepBest (best : List (String × Sense)) (s : Sense) (type : String) :
    Fields.get? (keepBest best s) type =
      if s.type = type then keepBetter (Fields.get? best type) s else Fields.get? best type := by
  by_cases htype : s.type = type
  · obtain rfl := htype
    rw [if_pos rfl]
    unfold keepBest keepBetter
    cases hget : Fields.get? best s.type with
    | none => exact Fields.get?_set best s.type s
    | some current =>
      simp only [Option.elim_some]
      split
      · exact Fields.get?_set best s.type s
      · exact hget
  · rw [if_neg htype]
    unfold keepBest
    split
    · exact Fields.get?_set_of_ne (Ne.symm htype) best s
    · split
      · exact Fields.get?_set_of_ne (Ne.symm htype) best s
      · rfl

/-- A sense is taken in by writing it under its type, or not at all. -/
theorem keepBest_cases (best : List (String × Sense)) (s : Sense) :
    keepBest best s = best ∨ keepBest best s = Fields.set best s.type s := by
  unfold keepBest
  split
  · exact .inr rfl
  · split
    · exact .inr rfl
    · exact .inl rfl

/-- **The invariant of taking in**: each type occurs once, with a sense of that type. -/
structure Typed (best : List (String × Sense)) : Prop where
  names : (Fields.names best).Nodup
  types : ∀ field ∈ best, field.2.type = field.1

theorem Typed.keepBest {best : List (String × Sense)} (h : Typed best) (s : Sense) :
    Typed (keepBest best s) := by
  rcases keepBest_cases best s with hsame | hset
  · rwa [hsame]
  · rw [hset]
    exact ⟨Fields.nodup_names_set h.names, Fields.forall_set h.types rfl⟩

theorem Typed.foldl : ∀ {senses : List Sense} {best : List (String × Sense)}, Typed best →
    Typed (senses.foldl Sense.keepBest best)
  | [], _, h => h
  | s :: _, _, h => (h.keepBest s).foldl

theorem ofType_concat (senses : List Sense) {s : Sense} {type : String} (h : s.type = type) :
    ofType (senses ++ [s]) type = ofType senses type ++ [s] := by
  simp [ofType, h]

/-- **The kept sense of a type** is the one that is kept of the senses of that type. -/
theorem consolidate_ofType (senses : List Sense) (type : String) :
    ofType (consolidate senses) type = (kept? (ofType senses type)).toList := by
  have hempty : Typed [] := ⟨List.nodup_nil, fun _ hfield => absurd hfield List.not_mem_nil⟩
  obtain ⟨hnames, htypes⟩ : Typed (senses.foldl keepBest []) := hempty.foldl
  unfold ofType consolidate kept?
  rw [Fields.filter_values hnames htypes, Fields.get?_foldl keepBetter get?_keepBest]
  rfl

theorem mem_consolidate_iff {senses : List Sense} {type : String} {s : Sense} :
    s ∈ consolidate senses ∧ s.type = type ↔ kept? (ofType senses type) = some s := by
  have hmem : s ∈ ofType (consolidate senses) type ↔ s ∈ consolidate senses ∧ s.type = type := by
    simp [ofType]
  rw [← hmem, consolidate_ofType, Option.mem_toList]

/-! ## The kept sense -/

section Kept

variable {senses before after : List Sense} {kept best s : Sense}

theorem exists_foldl_keepBetter : ∀ (senses : List Sense) (start : Sense),
    ∃ kept, senses.foldl keepBetter (some start) = some kept
  | [], start => ⟨start, rfl⟩
  | s :: rest, start => exists_foldl_keepBetter rest (if s.improves start then s else start)

/-- Of some senses one is kept. -/
theorem exists_kept (h : senses ≠ []) : ∃ kept, kept? senses = some kept := by
  obtain ⟨s, rest, rfl⟩ := List.exists_cons_of_ne_nil h
  exact exists_foldl_keepBetter rest s

/-- Of two senses the further one is kept if it improves on the first one, and else the first. -/
theorem keepBetter_eq_some {start : Option Sense} (h : keepBetter start s = some kept) :
    kept = s ∨ start = some kept ∧ s.improves kept = false := by
  cases start with
  | none => exact .inl (Option.some.inj h).symm
  | some current =>
    have hkept : (if s.improves current then s else current) = kept := Option.some.inj h
    split at hkept
    · exact .inl hkept.symm
    · rename_i hnot
      obtain rfl := hkept
      exact .inr ⟨rfl, Bool.eq_false_iff.mpr hnot⟩

/-- What is kept in the end was kept at the start or is one of the senses, and nothing after it
improves on it. -/
theorem exists_split_of_foldl : ∀ {senses : List Sense} {start : Option Sense},
    senses.foldl keepBetter start = some kept →
      (start = some kept ∧ ∀ s ∈ senses, s.improves kept = false) ∨
        ∃ before after, senses = before ++ kept :: after ∧ ∀ s ∈ after, s.improves kept = false
  | [], _, h => .inl ⟨h, fun _ hs => absurd hs List.not_mem_nil⟩
  | s :: rest, start, h => by
    rw [List.foldl_cons] at h
    rcases exists_split_of_foldl h with ⟨hstep, hrest⟩ | ⟨before, after, rfl, hafter⟩
    · rcases keepBetter_eq_some hstep with rfl | ⟨hstart, hs⟩
      · exact .inr ⟨[], rest, rfl, hrest⟩
      · exact .inl ⟨hstart, List.forall_mem_cons.mpr ⟨hs, hrest⟩⟩
    · exact .inr ⟨s :: before, after, rfl, hafter⟩

/-- **No sense after the kept one improves on it.** -/
theorem exists_split_of_kept (h : kept? senses = some kept) :
    ∃ before after, senses = before ++ kept :: after ∧ ∀ s ∈ after, s.improves kept = false :=
  (exists_split_of_foldl h).resolve_left fun ⟨hnone, _⟩ => nomatch hnone

theorem mem_of_kept (h : kept? senses = some kept) : kept ∈ senses := by
  obtain ⟨before, after, rfl, -⟩ := exists_split_of_kept h
  exact List.mem_append_right _ List.mem_cons_self

/-- The last sense does not surpass the kept one, in range or acuity. -/
theorem last_le_kept (h : kept? (senses ++ [s]) = some kept) :
    s.range ≤ kept.range ∧ s.acuity.rank ≤ kept.acuity.rank := by
  unfold kept? at h
  rw [List.foldl_append] at h
  rcases keepBetter_eq_some h with rfl | ⟨-, hnot⟩
  · exact improves_eq_false_iff.mp (improves_self kept)
  · exact improves_eq_false_iff.mp hnot

/-- A sense stays if nothing improves on it. -/
theorem foldl_keepBetter_eq (h : ∀ s ∈ senses, s.improves kept = false) :
    senses.foldl keepBetter (some kept) = some kept := by
  induction senses with
  | nil => rfl
  | cons s rest ih =>
    obtain ⟨hs, hrest⟩ := List.forall_mem_cons.mp h
    have hstep : keepBetter (some kept) s = some kept := by simp [keepBetter, hs]
    rw [List.foldl_cons, hstep, ih hrest]

/-- **A best sense with nothing sharper after it** settles what is kept, up to senses of the same
range and acuity. -/
theorem sameMerit_of_split (hbest : IsBest (before ++ best :: after) best)
    (hafter : ∀ s ∈ after, s.acuity.rank ≤ best.acuity.rank)
    (h : kept? (before ++ best :: after) = some kept) : SameMerit kept best := by
  obtain ⟨first, hfirst⟩ := exists_kept (List.concat_ne_nil best before)
  -- what is kept up to the best sense is as good as it
  have hmerit : SameMerit first best := by
    obtain ⟨hrange, hrank⟩ := last_le_kept hfirst
    have hmem : first ∈ before ++ best :: after := by
      rw [List.append_cons]
      exact List.mem_append_left _ (mem_of_kept hfirst)
    have hsame : first.range = best.range := range_antisymm (hbest.longest first hmem) hrange
    exact ⟨hsame, Acuity.rank_injective (Nat.le_antisymm (hbest.sharpest first hmem hsame) hrank)⟩
  -- and nothing after it takes its place
  have hstays : after.foldl keepBetter (some first) = some first := by
    refine foldl_keepBetter_eq fun s hs => improves_eq_false_iff.mpr ?_
    have hmem : s ∈ before ++ best :: after :=
      List.mem_append_right _ (List.mem_cons_of_mem _ hs)
    exact ⟨hmerit.1 ▸ hbest.longest s hmem, hmerit.2 ▸ hafter s hs⟩
  have hkept : kept? (before ++ best :: after) = some first := by
    rw [← hstays, ← hfirst, List.append_cons]
    exact List.foldl_append
  cases h.symm.trans hkept
  exact hmerit

/-- **When the best sense is kept**: no sense after a best one is sharper. -/
theorem isBest_kept_iff (h : kept? senses = some kept) : IsBest senses kept ↔
    ∃ before best after, senses = before ++ best :: after ∧ IsBest senses best ∧
      ∀ s ∈ after, s.acuity.rank ≤ best.acuity.rank := by
  constructor
  · intro hbest
    obtain ⟨before, after, hsplit, hafter⟩ := exists_split_of_kept h
    refine ⟨before, kept, after, hsplit, hbest, fun s hs => ?_⟩
    exact (improves_eq_false_iff.mp (hafter s hs)).2
  · rintro ⟨before, best, after, rfl, hbest, hafter⟩
    exact hbest.of_sameMerit (mem_of_kept h) (sameMerit_of_split hbest hafter h)

/-- **A sense that none surpasses**, in range or acuity, settles what is kept. -/
theorem sameMerit_of_unsurpassed (hs : s ∈ senses)
    (hall : ∀ t ∈ senses, t.range ≤ s.range ∧ t.acuity.rank ≤ s.acuity.rank)
    (h : kept? senses = some kept) : SameMerit kept s := by
  obtain ⟨before, after, rfl⟩ := List.append_of_mem hs
  refine sameMerit_of_split ⟨hs, fun t ht => (hall t ht).1, fun t ht _ => (hall t ht).2⟩
    (fun t ht => (hall t ?_).2) h
  exact List.mem_append_right _ (List.mem_cons_of_mem _ ht)

end Kept

/-- The best sense of a type that is switched on throughout has the longest range of the type. -/
theorem IsBest.range_eq {senses : List Sense} {type : String} {s : Sense}
    (h : IsBest (ofType senses type) s) (henabled : ∀ t ∈ ofType senses type, t.enabled = true) :
    s.range = longestRange senses type := by
  have hall : senses.filter (fun t => t.enabled && t.type == type) = ofType senses type := by
    refine List.filter_congr fun t ht => ?_
    cases htype : t.type == type with
    | false => exact Bool.and_false _
    | true => rw [henabled t (List.mem_filter.mpr ⟨ht, htype⟩), Bool.true_and]
  unfold longestRange
  rw [hall]
  symm
  cases hs : s.range with
  | none =>
    rw [List.max?_eq_none_iff, List.filterMap_eq_nil_iff]
    exact fun t ht => Option.le_none.mp (hs ▸ h.longest t ht)
  | some n =>
    refine List.max?_eq_some_iff.mpr ⟨List.mem_filterMap.mpr ⟨s, h.mem, hs⟩, fun m hm => ?_⟩
    obtain ⟨t, ht, hrange⟩ := List.mem_filterMap.mp hm
    have hlongest := h.longest t ht
    rwa [hs, hrange, Option.some_le_some] at hlongest

/-! ## Senses of all types -/

section Order

variable {senses : List Sense} {type : String} {kept s : Sense}

/-- Range and acuity that are kept in every order are surpassed by no sense of the type. -/
theorem le_of_kept_in_every_order (hsame : ∀ other : List Sense, other.Perm senses →
      ∀ k ∈ consolidate other, k.type = type → k.range = kept.range ∧ k.acuity = kept.acuity)
    (hs : s ∈ ofType senses type) :
    s.range ≤ kept.range ∧ s.acuity.rank ≤ kept.acuity.rank := by
  obtain ⟨hmem, htype⟩ := List.mem_filter.mp hs
  -- with the sense at the end, what is kept is not surpassed by it
  obtain ⟨before, after, rfl⟩ := List.append_of_mem hmem
  have hperm : ((before ++ after) ++ [s]).Perm (before ++ s :: after) :=
    (List.perm_append_singleton s _).trans List.perm_middle.symm
  have hlast := ofType_concat (before ++ after) (beq_iff_eq.mp htype)
  obtain ⟨k, hk⟩ := exists_kept (List.concat_ne_nil s (ofType (before ++ after) type))
  have hmerit := last_le_kept hk
  rw [← hlast] at hk
  obtain ⟨hmemk, htypek⟩ := mem_consolidate_iff.mpr hk
  obtain ⟨hrange, hacuity⟩ := hsame _ hperm k hmemk htypek
  rwa [hrange, hacuity] at hmerit

/-- A sense that none of its type surpasses settles what is kept in every order. -/
theorem sameMerit_in_every_order (hs : s ∈ ofType senses type)
    (hall : ∀ t ∈ ofType senses type, t.range ≤ s.range ∧ t.acuity.rank ≤ s.acuity.rank)
    {other : List Sense} (hperm : other.Perm senses) {k : Sense} (hk : k ∈ consolidate other)
    (htype : k.type = type) : SameMerit k s := by
  have htyped : (ofType other type).Perm (ofType senses type) := hperm.filter _
  exact sameMerit_of_unsurpassed (htyped.mem_iff.mpr hs)
    (fun t ht => hall t (htyped.mem_iff.mp ht)) (mem_consolidate_iff.mp ⟨hk, htype⟩)

end Order

/-- **What is kept of the senses of a type.** One sense of the type is kept. It is a best one if and
only if no sense of the type after a best one is sharper; and then, if all are switched on, it has
the longest range. Its range and its acuity are the same in every order of the senses if and only if
some sense of the type is surpassed by none, in range or in acuity. -/
theorem consolidate_isBest_iff {senses : List Sense} {type : String}
    (h : ∃ s ∈ senses, s.type = type) :
    ∃ kept ∈ ofType senses type, ofType (consolidate senses) type = [kept] ∧
      (IsBest (ofType senses type) kept ↔
        ∃ before best after, ofType senses type = before ++ best :: after ∧
          IsBest (ofType senses type) best ∧ ∀ s ∈ after, s.acuity.rank ≤ best.acuity.rank) ∧
      (IsBest (ofType senses type) kept → (∀ s ∈ ofType senses type, s.enabled = true) →
        kept.range = longestRange senses type) ∧
      ((∀ other : List Sense, other.Perm senses → ∀ k ∈ consolidate other, k.type = type →
          k.range = kept.range ∧ k.acuity = kept.acuity) ↔
        ∃ s ∈ ofType senses type, ∀ t ∈ ofType senses type,
          t.range ≤ s.range ∧ t.acuity.rank ≤ s.acuity.rank) := by
  obtain ⟨s, hs, htype⟩ := h
  have hne : ofType senses type ≠ [] :=
    List.ne_nil_of_mem (List.mem_filter.mpr ⟨hs, beq_iff_eq.mpr htype⟩)
  obtain ⟨kept, hkept⟩ := exists_kept hne
  refine ⟨kept, mem_of_kept hkept, ?_, isBest_kept_iff hkept, IsBest.range_eq, ?_⟩
  · rw [consolidate_ofType, hkept]
    rfl
  constructor
  · intro hsame
    exact ⟨kept, mem_of_kept hkept, fun t ht => le_of_kept_in_every_order hsame ht⟩
  · rintro ⟨s, hs, hall⟩ other hperm k hk htypek
    have hmerit := sameMerit_of_unsurpassed hs hall hkept
    have hmeritk := sameMerit_in_every_order hs hall hperm hk htypek
    exact ⟨hmeritk.1.trans hmerit.1.symm, hmeritk.2.trans hmerit.2.symm⟩

/-- The sharper sense of two comes first, so the one of the longer range is kept, though not in the
other order. -/
theorem consolidate_isBest_iff_of_elf :
    let near : Sense :=
      { type := "darkvision", range := some 30, acuity := .precise, source := "Elf", label := "D" }
    let far : Sense := { type := "darkvision", range := some 60, acuity := .imprecise,
                         source := "Orb", label := "D" }
    let scent : Sense := { type := "scent", acuity := .vague, source := "Elf", label := "S" }
    let senses := [near, scent, far]
    (∃ s ∈ senses, s.type = "darkvision") ∧
      ofType (consolidate senses) "darkvision" = [far] ∧
      IsBest (ofType senses "darkvision") far ∧
      far.range = longestRange senses "darkvision" ∧
      ¬ ∀ other : List Sense, other.Perm senses → ∀ k ∈ consolidate other, k.type = "darkvision" →
        k.range = far.range ∧ k.acuity = far.acuity := by
  intro near far scent senses
  have hoccurs : ∃ s ∈ senses, s.type = "darkvision" := ⟨near, List.mem_cons_self, rfl⟩
  obtain ⟨kept, -, hkept, -, hrange, horder⟩ := consolidate_isBest_iff hoccurs
  have hfar : ofType (consolidate senses) "darkvision" = [far] := rfl
  have hsame : kept = far := List.singleton_inj.mp (hkept.symm.trans hfar)
  rw [hsame] at hrange horder
  have htyped : ofType senses "darkvision" = [near, far] := rfl
  have hisBest : IsBest (ofType senses "darkvision") far :=
    ⟨by simp [htyped], by simp [htyped, near, far], by simp [htyped, near, far]⟩
  exact ⟨hoccurs, hfar, hisBest, hrange hisBest (by simp [htyped, near, far]),
    fun hall => absurd (horder.mp hall) (by simp [htyped, near, far, Acuity.rank])⟩

/-- A sense of a shorter range is kept, since it is the sharper one and comes last. -/
theorem consolidate_keeps_shorter :
    ¬ ∀ (senses : List Sense) (type : String), (∃ s ∈ senses, s.type = type) →
      ∃ kept, ofType (consolidate senses) type = [kept] ∧ IsBest (ofType senses type) kept := by
  intro hclaim
  let far : Sense :=
    { type := "darkvision", range := some 60, acuity := .imprecise, source := "A", label := "far" }
  let near : Sense :=
    { type := "darkvision", range := some 30, acuity := .precise, source := "B", label := "near" }
  obtain ⟨kept, hkept, hbest⟩ := hclaim [far, near] "darkvision" ⟨far, by simp, rfl⟩
  have hnear : ofType (consolidate [far, near]) "darkvision" = [near] := rfl
  obtain rfl : kept = near := List.singleton_inj.mp (hkept.symm.trans hnear)
  have hfar : far ∈ ofType [far, near] "darkvision" := List.mem_cons_self
  exact absurd (hbest.longest far hfar) (by simp [near, far])

end Sense

end RuleElements
