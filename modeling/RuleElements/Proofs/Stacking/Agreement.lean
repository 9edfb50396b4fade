import Mathlib.Algebra.Order.Ring.Int
import RuleElements.Proofs.Stacking.Explanation

/-!
# Totals, splits and explanations agree

The modifiers in force are added up, split into those that count and those that do not, and
explained line by line, and each of these picks anew what counts. For integer values this module
says that all three speak of the same modifiers.

Main definitions:
* `Stacking.LineOf`: the line of a modifier beside the outcome of the split.

Results:
* `split_perm`: the split loses no modifier and puts none on both sides.
* `total_eq_sum_applied`: the total is the sum of what counts.
* `LineOf.of_says`: how the lines end, and whom they name.
* `apply_agrees`: all of it, for the modifiers in force in a context.
-/

namespace RuleElements.Stacking

variable {ms : List Placed} {m w : Placed} {text : String}

/-! ## The split -/

/-- Different places tell modifiers apart. -/
theorem apart_of_nodup (h : (ms.map (·.place)).Nodup) : Placed.Apart ms :=
  fun _ ha _ hb hplace => List.inj_on_of_nodup_map h ha hb hplace

/-- The modifiers of a list that do not count. -/
def suppressed (ms : List Placed) : List Placed := ms.filter (!isAmong · (applied ms))

theorem mem_suppressed_iff (hms : Placed.Apart ms) :
    m ∈ suppressed ms ↔ m ∈ ms ∧ m ∉ applied ms := by
  unfold suppressed
  rw [List.mem_filter, Bool.not_eq_true', ← Bool.not_eq_true]
  exact and_congr_right fun hm => not_congr (isAmong_applied_iff hms hm)

/-- Nothing stands on both sides of the split, or twice on one. -/
theorem nodup_split (h : (ms.map (·.place)).Nodup) : (applied ms ++ suppressed ms).Nodup := by
  have hms : ms.Nodup := List.Nodup.of_map _ h
  refine List.nodup_append.mpr ⟨nodup_applied hms, hms.filter _, ?_⟩
  rintro x hx y hy rfl
  exact ((mem_suppressed_iff (apart_of_nodup h)).mp hy).2 hx

/-- **The split** loses no modifier and puts none on both sides. -/
theorem split_perm (h : (ms.map (·.place)).Nodup) : (applied ms ++ suppressed ms).Perm ms := by
  refine (List.perm_ext_iff_of_nodup (nodup_split h) (List.Nodup.of_map _ h)).mpr fun x => ?_
  rw [List.mem_append, mem_suppressed_iff (apart_of_nodup h)]
  constructor
  · rintro (hx | hx)
    · exact (of_mem_applied hx).1
    · exact hx.1
  · intro hx
    by_cases hcounts : x ∈ applied ms
    · exact .inl hcounts
    · exact .inr ⟨hx, hcounts⟩

/-! ## The total -/

/-- **The total is the sum of what counts.** -/
theorem total_eq_sum_applied (hms : ∀ m ∈ ms, m.modifier.IsIntegral) :
    total ms = sum (applied ms) := by
  have hbonuses : ∀ m ∈ bonuses ms, m.modifier.IsIntegral := fun m hm =>
    hms m (of_mem_bonuses hm).1
  have hpenalties : ∀ m ∈ penalties ms, m.modifier.IsIntegral := fun m hm =>
    hms m (of_mem_penalties hm).1
  unfold total
  rw [sum_eq hbonuses, sum_eq hpenalties, sum_eq fun m hm => hms m (of_mem_applied hm).1, applied,
    List.map_append, List.sum_append]
  rfl

/-! ## The ends of lines -/

theorem getLast?_append_text {s t : String} (ht : t.toList ≠ []) :
    (s ++ t).toList.getLast? = t.toList.getLast? := by
  rw [String.toList_append, List.getLast?_append_of_ne_nil _ ht]

/-- A text does not end in a part with another last character. -/
theorem not_suffix_of_getLast? {part : String} (hpart : part.toList ≠ [])
    (h : text.toList.getLast? ≠ part.toList.getLast?) : ¬ part.toList <:+ text.toList := by
  rintro ⟨start, hstart⟩
  rw [← hstart, List.getLast?_append_of_ne_nil _ hpart] at h
  exact h rfl

theorem suffix_append {s t part : String} (h : part.toList <:+ t.toList) :
    part.toList <:+ (s ++ t).toList := by
  rw [String.toList_append]
  exact h.trans (List.suffix_append _ _)

theorem not_suffix_append {s t part : String} (ht : t.toList ≠ []) (hpart : part.toList ≠ [])
    (h : t.toList.getLast? ≠ part.toList.getLast?) : ¬ part.toList <:+ (s ++ t).toList :=
  not_suffix_of_getLast? hpart (by rw [getLast?_append_text ht]; exact h)

/-- The text of an integer ends in a digit. -/
theorem exists_digit_getLast? (n : Int) :
    ∃ c, (Number.integer n).text.toList.getLast? = some c ∧ c.isDigit = true := by
  have hnat : ∀ k : Nat, ∃ c, k.repr.toList.getLast? = some c ∧ c.isDigit = true := by
    intro k
    rw [Nat.toList_repr]
    obtain ⟨c, hc⟩ : ∃ c, (Nat.toDigits 10 k).getLast? = some c :=
      ⟨_, List.getLast?_eq_some_getLast Nat.toDigits_ne_nil⟩
    exact ⟨c, hc, Nat.isDigit_of_mem_toDigits (by omega) (by omega) (List.mem_of_getLast? hc)⟩
  show ∃ c, n.repr.toList.getLast? = some c ∧ c.isDigit = true
  rw [Int.repr_eq_if]
  split
  · exact hnat _
  · obtain ⟨c, hc, hdigit⟩ := hnat (-n).toNat
    refine ⟨c, ?_, hdigit⟩
    rw [getLast?_append_text, hc]
    intro hnil
    rw [hnil] at hc
    cases hc

/-- So does its text with a sign in front. -/
theorem exists_digit_getLast?_signed (n : Int) :
    ∃ c, (Number.integer n).signedText.toList.getLast? = some c ∧ c.isDigit = true := by
  obtain ⟨c, hc, hdigit⟩ := exists_digit_getLast? n
  refine ⟨c, ?_, hdigit⟩
  unfold Number.signedText
  rw [getLast?_append_text, hc]
  intro hnil
  rw [hnil] at hc
  cases hc

/-! ## The lines -/

/-- **The line of a modifier** with an integer value, beside those that count: how it ends, and whom
it names. -/
structure LineOf (counting : List Placed) (m : Placed) (text : String) : Prop where
  applies_iff : "applies".toList <:+ text.toList ↔ m ∈ counting
  noEffect_iff : "has no effect".toList <:+ text.toList ↔ m.points = 0
  winner : m ∉ counting → m.points ≠ 0 → ∃ w ∈ counting, w.modifier.type = m.modifier.type ∧
    w.points.sign = m.points.sign ∧ m.points.natAbs ≤ w.points.natAbs ∧
      text = "[Stack] " ++ tag m.modifier ++ " suppressed by " ++ w.modifier.label ++ " " ++
        w.modifier.value.signedText

/-- A modifier of the same sign that another one does not go beyond is at least as far from zero. -/
theorem points_of_sameSign {m w : Modifier} (hm : m.IsIntegral) (hw : w.IsIntegral)
    (hsign : w.SameSign m) (hbeyond : m.goesBeyond w = false) :
    w.points.sign = m.points.sign ∧ m.points.natAbs ≤ w.points.natAbs := by
  have hbonus := hsign.isBonus_eq
  have hpenalty := hsign.isPenalty_eq
  unfold Modifier.goesBeyond at hbeyond
  rw [hw.isBonus_eq, hm.isBonus_eq, decide_eq_decide] at hbonus
  rw [hw.isPenalty_eq, hm.isPenalty_eq, decide_eq_decide] at hpenalty
  rw [hm.isBonus_eq, hm.isPenalty_eq, hm.value_eq, hw.value_eq, Number.lt_integer,
    Number.lt_integer] at hbeyond
  simp only [Bool.or_eq_false_iff, Bool.and_eq_false_iff, decide_eq_false_iff_not] at hbeyond
  rcases lt_trichotomy m.points 0 with h | h | h
  · rw [Int.sign_eq_neg_one_of_neg h, Int.sign_eq_neg_one_of_neg (hpenalty.mpr h)]
    omega
  · have : w.points = 0 := by omega
    simp [h, this]
  · rw [Int.sign_eq_one_of_pos h, Int.sign_eq_one_of_pos (hbonus.mpr h)]
    omega

theorem points_ne_zero_of_mem_applied (hm : m.modifier.IsIntegral) (h : m ∈ applied ms) :
    m.points ≠ 0 := by
  intro hzero
  have hsign := (of_mem_applied h).2
  rw [hm.isBonus_eq, hm.isPenalty_eq] at hsign
  have hpoints : m.modifier.points = 0 := hzero
  simp [hpoints] at hsign

/-- A text with a digit at its end does not end in a word. -/
theorem not_suffix_of_digit {part : String} {c d : Char}
    (hpart : part.toList.getLast? = some d) (hd : d.isDigit = false)
    (htext : text.toList.getLast? = some c) (hc : c.isDigit = true) :
    ¬ part.toList <:+ text.toList := by
  refine not_suffix_of_getLast? (fun hnil => by simp [hnil] at hpart) fun h => ?_
  rw [htext, hpart] at h
  rw [Option.some.inj h, hd] at hc
  cases hc

/-- **How the lines end, and whom they name.** -/
theorem LineOf.of_says (hms : ∀ m ∈ ms, m.modifier.IsIntegral) (hm : m ∈ ms)
    (h : Says (applied ms) m text) : LineOf (applied ms) m text := by
  have hint := hms m hm
  cases h with
  | applies hmem =>
    have hpoints := points_ne_zero_of_mem_applied hint hmem
    exact ⟨iff_of_true (suffix_append ⟨[' '], rfl⟩) hmem,
      iff_of_false (not_suffix_append (by decide) (by decide) (by decide)) hpoints,
      fun h => absurd hmem h⟩
  | noEffect hmem hzero =>
    rw [hint.isZero_eq, decide_eq_true_eq] at hzero
    exact ⟨iff_of_false (not_suffix_append (by decide) (by decide) (by decide)) hmem,
      iff_of_true (suffix_append ⟨[' '], rfl⟩) hzero, fun _ h => absurd hzero h⟩
  | suppressed w hmem hzero hw htype hsign hbeyond =>
    have hwint := hms w (of_mem_applied hw).1
    rw [hint.isZero_eq, decide_eq_false_iff_not] at hzero
    obtain ⟨hside, hfar⟩ := points_of_sameSign hint hwint hsign hbeyond
    obtain ⟨c, hc, hdigit⟩ := exists_digit_getLast?_signed w.modifier.points
    rw [← hwint.value_eq] at hc
    have hlast := hc
    rw [← getLast?_append_text (s := "[Stack] " ++ tag m.modifier ++ " suppressed by " ++
      w.modifier.label ++ " ") (fun hnil => by simp [hnil] at hc)] at hlast
    exact ⟨iff_of_false (not_suffix_of_digit (d := 's') (by decide) (by decide) hlast hdigit) hmem,
      iff_of_false (not_suffix_of_digit (d := 't') (by decide) (by decide) hlast hdigit) hzero,
      fun _ _ => ⟨w, hw, htype, hside, hfar, rfl⟩⟩

/-! ## All together -/

/-- What the modifiers in force come to is their sum and their split. -/
theorem apply_eq (ms : List Placed) (ctx : Option Context) :
    apply ms ctx = (sum (applied (ms.filter (·.modifier.isInForce ctx)))).map fun total =>
      ⟨total, applied (ms.filter (·.modifier.isInForce ctx)),
        suppressed (ms.filter (·.modifier.isInForce ctx))⟩ := rfl

/-- Modifiers with integer values are explained, each by its line. -/
theorem explain_integral (hplaces : Placed.Apart ms) (hms : ∀ m ∈ ms, m.modifier.IsIntegral) :
    ∃ lines, explain ms = .ok lines ∧ List.Forall₂ (LineOf (applied ms)) ms lines := by
  have hnumber : ∀ m ∈ ms, m.modifier.value ≠ .real .nan := by
    intro m hm hnan
    rw [(hms m hm).value_eq] at hnan
    cases hnan
  cases hlines : explain ms with
  | error fault =>
    obtain ⟨-, m, hm, hnan, -⟩ := explain_eq_error hplaces hlines
    exact absurd hnan (hnumber m hm)
  | ok lines =>
    exact ⟨lines, rfl, (says_of_explain hplaces hlines).imp fun m _ ⟨hm, hsaid⟩ =>
      LineOf.of_says hms hm (hsaid (hnumber m hm))⟩

/-- **Totals, splits and explanations agree.** Of different modifiers with integer values, those in
force in a context are split into those that count and the others, each once; the total is the sum
of those that count, and is the total of all in force; and the explanation of all in force has a
line for each, in order, that says on which side of the split it stands. -/
theorem apply_agrees (hplaces : (ms.map (·.place)).Nodup)
    (hms : ∀ m ∈ ms, m.modifier.IsIntegral) (ctx : Option Context) :
    ∃ outcome lines,
      apply ms ctx = .ok outcome ∧
      explain (ms.filter (·.modifier.isInForce ctx)) = .ok lines ∧
      (outcome.applied ++ outcome.suppressed).Nodup ∧
      (outcome.applied ++ outcome.suppressed).Perm (ms.filter (·.modifier.isInForce ctx)) ∧
      outcome.total = .integer (outcome.applied.map Placed.points).sum ∧
      total (ms.filter (·.modifier.isInForce ctx)) = .ok outcome.total ∧
      List.Forall₂ (LineOf outcome.applied) (ms.filter (·.modifier.isInForce ctx)) lines := by
  have hactive : ((ms.filter (·.modifier.isInForce ctx)).map (·.place)).Nodup :=
    hplaces.sublist (List.filter_sublist.map _)
  have hintegral : ∀ m ∈ ms.filter (·.modifier.isInForce ctx), m.modifier.IsIntegral :=
    fun m hm => hms m (List.mem_of_mem_filter hm)
  rw [apply_eq]
  generalize ms.filter (·.modifier.isInForce ctx) = active at hactive hintegral ⊢
  obtain ⟨lines, hlines, heach⟩ := explain_integral (apart_of_nodup hactive) hintegral
  have hsum : sum (applied active) = .ok (.integer ((applied active).map Placed.points).sum) :=
    sum_eq fun m hm => hintegral m (of_mem_applied hm).1
  refine ⟨⟨.integer ((applied active).map Placed.points).sum, applied active, suppressed active⟩,
    lines, ?_, hlines, nodup_split hactive,
    split_perm hactive, rfl, ?_, heach⟩
  · rw [hsum]
    rfl
  · rw [total_eq_sum_applied hintegral, hsum]

/-- A status bonus below another one, a zero, and a penalty that is switched off. -/
theorem apply_agrees_of_heroism :
    let m (place : Nat) (label : String) (n : Int) (enabled : Bool) : Placed :=
      { place, modifier := { label, source := "Test", value := .integer n, type := .status,
                             selector := "ac", enabled } }
    let ms := [m 0 "Bless" 1 true, m 1 "Heroism" 2 true, m 2 "None" 0 true, m 3 "Fear" (-1) false]
    (ms.map (·.place)).Nodup ∧ ∃ outcome lines, apply ms none = .ok outcome ∧
      explain (ms.take 3) = .ok lines ∧ outcome.total = .integer 2 ∧
        (outcome.applied ++ outcome.suppressed).Perm (ms.take 3) ∧
          List.Forall₂ (LineOf outcome.applied) (ms.take 3) lines := by
  intro m ms
  have hplaces : (ms.map (·.place)).Nodup := by decide
  have hms : ∀ x ∈ ms, x.modifier.IsIntegral := by
    intro x hx
    simp only [ms, List.mem_cons, List.not_mem_nil, or_false] at hx
    rcases hx with rfl | rfl | rfl | rfl <;> exact ⟨_, rfl⟩
  have hactive : ms.filter (·.modifier.isInForce none) = ms.take 3 := rfl
  obtain ⟨outcome, lines, happly, hlines, -, hperm, -, htotal, heach⟩ :=
    apply_agrees hplaces hms none
  rw [hactive] at hlines hperm htotal heach
  have htwo : total (ms.take 3) = .ok (.integer 2) := rfl
  exact ⟨hplaces, outcome, lines, happly, hlines, Except.ok.inj (htotal.symm.trans htwo), hperm,
    heach⟩

end RuleElements.Stacking
