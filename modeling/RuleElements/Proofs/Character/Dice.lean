import RuleElements.Proofs.Processing.Dice
import RuleElements.Proofs.Stacking.Total

/-!
# Pools of dice

A pool is found by its key, a text made of the size of its dice and the type of their damage. The
text tells the two apart wherever the size has no hyphen in it, as no die has; the type may have any
number of them. So pools neither mix dice of different kinds nor part dice of the same kind.

Main definitions:
* `DamageDice.kind`: size and type of damage, which dice have to share to be thrown together.
* `DamageDice.kinds`: the kinds that occur, in order of first occurrence.
* `DamageDice.together`: all dice of one kind in one pool.

Results:
* `DamageDice.keyOf_inj`: keys of kinds of dice are different.
* `DamageDice.foldl_gather`: pools after any number of dice.
* `DamageDice.pools_lossless`: one pool for each kind, with all dice of the kind.
-/

namespace RuleElements

/-! ## Keys -/

/-- A separator splits a text in one way if it does not occur before. -/
theorem append_separator_inj {c : Char} {xs ys r s : List Char} (hx : c ∉ xs) (hy : c ∉ ys)
    (h : xs ++ c :: r = ys ++ c :: s) : xs = ys ∧ r = s := by
  have hbefore : ∀ {xs r : List Char}, c ∉ xs → (xs ++ c :: r).takeWhile (· != c) = xs := by
    intro xs r hxs
    have hpass : ∀ d ∈ xs, (d != c) = true := fun d hd => bne_iff_ne.mpr fun heq : d = c =>
      hxs (heq ▸ hd)
    rw [List.takeWhile_append_of_pos hpass]
    simp
  have heq : xs = ys := by rw [← hbefore hx, h, hbefore hy]
  obtain rfl := heq
  exact ⟨rfl, (List.cons.inj (List.append_cancel_left h)).2⟩

/-- There is no hyphen in a die. -/
theorem hyphen_not_mem_of_isDie {s : String} (h : isDie s = true) : '-' ∉ s.toList := by
  obtain ⟨digits, hs, -, hdigits⟩ := isDie_iff.mp h
  rw [hs]
  intro hmem
  rcases List.mem_cons.mp hmem with heq | hmem
  · exact absurd heq (by decide)
  · exact absurd (hdigits '-' hmem) (by decide +kernel)

namespace DamageDice

/-- The kind of dice: their size and the type of their damage. -/
def kind (d : DamageDice) : String × String := (d.dieSize, d.damageType)

/-- The key of the pool of a kind. -/
def keyOf (k : String × String) : String := k.1 ++ "-" ++ k.2

theorem toList_keyOf (k : String × String) :
    (keyOf k).toList = k.1.toList ++ '-' :: k.2.toList := by
  simp [keyOf]

/-- **Keys of kinds are different**, even if the types have hyphens. -/
theorem keyOf_inj {a b : String × String} (ha : isDie a.1 = true) (hb : isDie b.1 = true)
    (h : keyOf a = keyOf b) : a = b := by
  have hlist := congrArg String.toList h
  rw [toList_keyOf, toList_keyOf] at hlist
  obtain ⟨hsize, htype⟩ :=
    append_separator_inj (hyphen_not_mem_of_isDie ha) (hyphen_not_mem_of_isDie hb) hlist
  exact Prod.ext (String.toList_injective hsize) (String.toList_injective htype)

/-! ## Kinds -/

/-- The kinds of dice, in order of first occurrence. -/
def kinds (dice : List DamageDice) : List (String × String) := (dice.map kind).eraseDups

theorem mem_kinds {dice : List DamageDice} {k : String × String} :
    k ∈ kinds dice ↔ ∃ d ∈ dice, d.kind = k := by
  rw [kinds, List.mem_eraseDups, List.mem_map]

theorem nodup_kinds (dice : List DamageDice) : (kinds dice).Nodup := Stacking.nodup_eraseDups _

/-- Further dice bring their kind if it is new. -/
theorem kinds_concat (dice : List DamageDice) (d : DamageDice) [Decidable (d.kind ∈ kinds dice)] :
    kinds (dice ++ [d]) = if d.kind ∈ kinds dice then kinds dice else kinds dice ++ [d.kind] := by
  have hnew : kinds (dice ++ [d]) =
      kinds dice ++ ([d.kind].removeAll (dice.map kind)).eraseDups := by
    unfold kinds
    rw [List.map_append, List.eraseDups_append]
    rfl
  have hold : d.kind ∈ kinds dice ↔ (dice.map kind).elem d.kind = true := by
    rw [kinds, List.mem_eraseDups, List.elem_iff]
  rw [hnew, List.removeAll, List.filter_singleton]
  by_cases h : d.kind ∈ kinds dice
  · rw [if_pos h, hold.mp h]
    exact List.append_nil _
  · rw [if_neg h, Bool.eq_false_iff.mpr (hold.not.mp h)]
    rfl

/-! ## Dice of one kind -/

/-- A pool with further dice put in. -/
def put (pool : DicePool) (d : DamageDice) : DicePool :=
  { pool with
    diceNumber := pool.diceNumber + d.diceNumber
    sources := pool.sources ++ [d.source] }

/-- **All dice of a kind in one pool**: the sum of their numbers, and their sources in order. -/
def together (dice : List DamageDice) (k : String × String) : DicePool where
  diceNumber := ((dice.filter (·.kind = k)).map (·.diceNumber)).sum
  dieSize := k.1
  damageType := k.2
  sources := (dice.filter (·.kind = k)).map (·.source)

/-- The pool of a kind that does not occur is empty. -/
theorem together_of_not_mem {dice : List DamageDice} {k : String × String} (h : k ∉ kinds dice) :
    together dice k = ⟨0, k.1, k.2, []⟩ := by
  have hnone : dice.filter (·.kind = k) = [] := List.filter_eq_nil_iff.mpr fun d hd hk =>
    h (mem_kinds.mpr ⟨d, hd, of_decide_eq_true hk⟩)
  simp [together, hnone]

/-- Further dice are put into the pool of their kind. -/
theorem together_concat_self (dice : List DamageDice) (d : DamageDice) :
    together (dice ++ [d]) d.kind = put (together dice d.kind) d := by
  simp [together, put, List.filter_append]

/-- Further dice do not change the pools of other kinds. -/
theorem together_concat_of_ne {d : DamageDice} {k : String × String} (h : k ≠ d.kind)
    (dice : List DamageDice) : together (dice ++ [d]) k = together dice k := by
  simp [together, List.filter_append, Ne.symm h]

/-! ## Pools -/

/-- The pools of dice by kind, under their keys. -/
def byKind (dice : List DamageDice) : List (String × DicePool) :=
  (kinds dice).map fun k => (keyOf k, together dice k)

theorem gather_eq (pools : List (String × DicePool)) (d : DamageDice) :
    gather pools d = Fields.set pools (keyOf d.kind)
      (put ((Fields.get? pools (keyOf d.kind)).getD ⟨0, d.kind.1, d.kind.2, []⟩) d) := rfl

/-- **Dice are gathered by kind**, as long as no kind shares its key with another one. -/
theorem gather_byKind {dice : List DamageDice} {d : DamageDice}
    (hkey : ∀ k ∈ kinds dice, keyOf k = keyOf d.kind → k = d.kind) :
    gather (byKind dice) d = byKind (dice ++ [d]) := by
  -- the dice go into the pool of their kind, which is empty if the kind is new
  have hpool : (Fields.get? (byKind dice) (keyOf d.kind)).getD ⟨0, d.kind.1, d.kind.2, []⟩ =
      together dice d.kind := by
    rw [byKind, Fields.get?_table _ hkey]
    by_cases hmem : d.kind ∈ kinds dice
    · rw [if_pos hmem, Option.getD_some]
    · rw [if_neg hmem, Option.getD_none, together_of_not_mem hmem]
  rw [gather_eq, hpool, ← together_concat_self, byKind,
    Fields.set_table _ (nodup_kinds dice) hkey, ← kinds_concat]
  refine List.map_congr_left fun k _ => ?_
  by_cases hk : k = d.kind
  · rw [if_pos hk, hk]
  · rw [if_neg hk, together_concat_of_ne hk]

/-- **The pools after any number of dice.** -/
theorem foldl_gather {dice : List DamageDice} (h : ∀ d ∈ dice, isDie d.dieSize = true) :
    dice.foldl gather [] = byKind dice := by
  induction dice using List.reverseRecOn with
  | nil => rfl
  | append_singleton dice d ih =>
    obtain ⟨hdice, hlast⟩ := List.forall_mem_append.mp h
    have hd : isDie d.kind.1 = true := hlast d List.mem_cons_self
    rw [List.foldl_append, ih hdice]
    refine gather_byKind fun k hk => ?_
    obtain ⟨e, he, rfl⟩ := mem_kinds.mp hk
    exact keyOf_inj (hdice e he) hd

/-- The keys of pools of dice are different. -/
theorem nodup_names_byKind {dice : List DamageDice} (h : ∀ d ∈ dice, isDie d.dieSize = true) :
    (Fields.names (byKind dice)).Nodup := by
  rw [byKind, Fields.names, List.map_map]
  refine (nodup_kinds dice).map_on fun a ha b hb heq => ?_
  obtain ⟨d, hd, rfl⟩ := mem_kinds.mp ha
  obtain ⟨e, he, rfl⟩ := mem_kinds.mp hb
  exact keyOf_inj (h d hd) (h e he) heq

/-- **Pools lose and mix nothing.** Of dice with proper dies, as all dice of a pass are, those that
are switched on, apply and are aimed at the selector make one pool for each kind of them, in order
of first occurrence: under a key of its own, with all dice of the kind and no others. -/
theorem pools_lossless {dice : List DamageDice} (h : ∀ d ∈ dice, isDie d.dieSize = true)
    (selector : Option String) (ctx : Option Context) :
    let counted := dice.filter fun d =>
      d.enabled && Gated.appliesIn ctx d && selector.all (d.selector == ·)
    pools dice selector ctx = (kinds counted).map (fun k => (keyOf k, together counted k)) ∧
      (kinds counted).Nodup ∧ (Fields.names (pools dice selector ctx)).Nodup ∧
      ∀ (p : Processing) (rules : List Data) (done : Pass), p.runRaw rules = .ok done →
        ∀ d ∈ done.aggregate.damageDice, isDie d.dieSize = true := by
  intro counted
  have hcounted : ∀ d ∈ counted, isDie d.dieSize = true := fun d hd =>
    h d (List.mem_of_mem_filter hd)
  have hpools : pools dice selector ctx = byKind counted := foldl_gather hcounted
  have hnames := nodup_names_byKind hcounted
  rw [← hpools] at hnames
  exact ⟨hpools, nodup_kinds counted, hnames, fun p rules done hrun d => p.isDie_of_runRaw hrun⟩

/-- Dice of a type with a hyphen between two lots of dice of the same kind, and some that are aimed
at something else. -/
theorem pools_lossless_of_cold_iron :
    let dice : List DamageDice :=
      [{ selector := "strike-damage", diceNumber := 1, dieSize := "d6", damageType := "fire",
         source := "Flaming" },
        { selector := "strike-damage", diceNumber := 2, dieSize := "d6",
          damageType := "cold-iron", source := "Arrow" },
        { selector := "spell-damage", diceNumber := 5, dieSize := "d6", damageType := "fire",
          source := "Spell" },
        { selector := "strike-damage", diceNumber := 3, dieSize := "d6", damageType := "fire",
          source := "Torch" }]
    (∀ d ∈ dice, isDie d.dieSize = true) ∧
      pools dice (some "strike-damage") none =
        [("d6-fire", ⟨4, "d6", "fire", ["Flaming", "Torch"]⟩),
          ("d6-cold-iron", ⟨2, "d6", "cold-iron", ["Arrow"]⟩)] := by
  intro dice
  have hdice : ∀ d ∈ dice, isDie d.dieSize = true := by decide +kernel
  obtain ⟨hpools, -⟩ := pools_lossless hdice (some "strike-damage") none
  exact ⟨hdice, hpools.trans rfl⟩

end DamageDice

end RuleElements
