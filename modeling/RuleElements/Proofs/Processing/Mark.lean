import Mathlib.Algebra.BigOperators.Group.List.Basic
import Mathlib.Algebra.Ring.Int.Defs
import Mathlib.Data.List.Infix
import Mathlib.Logic.Function.Iterate
import RuleElements.Processing.Pass
import RuleElements.Proofs.Faulting
import RuleElements.Proofs.Text.Casing

/-!
# What adjustments leave for later ones to match

An adjustment looks for its slug in labels and sources, and puts a mark behind the source of what it
adjusts. So a slug that can be read from the mark, or that runs into it, finds modifiers that it did
not find before. Every other adjustment concerns the same modifiers after any adjustments as before
them, and what has been matched stays matched. Adjustments of that kind that add integers may be
carried out in any order.

Main definitions:
* `AdjustModifierRule.process`, `AdjustModifierRule.processAll`: adjustments at a level.
* `AdjustModifierRule.ReadsMark`: the adjustments whose slug the mark can complete.
* `Modifier.raised`: a modifier after changes that were added to it.

Results:
* `Text.contains_iff`: to look for a part is to look for an infix.
* `AdjustModifierRule.fits_of_adjustOne`: what one adjustment leaves matched.
* `AdjustModifierRule.processAll_eq_raised`: integers that are added, in closed form.
* `AdjustModifierRule.processAll_fits`: runs of adjustments.
-/

namespace RuleElements

/-! ## Parts of texts -/

namespace Text

theorem occursIn_iff {part : List Char} : ∀ {cs : List Char},
    occursIn part cs = true ↔ part <:+: cs
  | [] => by simp [occursIn]
  | c :: cs => by
    rw [occursIn, Bool.or_eq_true, List.isPrefixOf_iff_prefix, occursIn_iff, List.infix_cons_iff]

/-- **A part stands somewhere** in a text if its characters are an infix there. -/
theorem contains_iff {s part : String} : contains s part = true ↔ part.toList <:+: s.toList :=
  occursIn_iff

end Text

open Text

namespace AdjustModifierRule

variable {rule other : AdjustModifierRule} {level : Int} {change : Number} {slug : String}

/-! ## The mark -/

/-- The mark that an adjustment puts behind a source. -/
def mark : List Char := " (adjusted)".toList

/-- **Slugs that the mark can complete**: one that is a part of the mark, or that ends as the mark
begins. -/
inductive MarkCompletes (slug : String) : Prop
  | inside (h : (lower slug).toList <:+: mark)
  | across {start : List Char} (hne : start ≠ []) (hend : start <:+ (lower slug).toList)
      (hmark : start <+: mark)

theorem markCompletes_iff : MarkCompletes slug ↔ (lower slug).toList <:+: mark ∨
    ∃ start ∈ mark.inits, start ≠ [] ∧ start <:+ (lower slug).toList := by
  constructor
  · rintro (h | ⟨hne, hend, hmark⟩)
    · exact .inl h
    · exact .inr ⟨_, (List.mem_inits _ _).mpr hmark, hne, hend⟩
  · rintro (h | ⟨start, hmark, hne, hend⟩)
    · exact .inside h
    · exact .across hne hend ((List.mem_inits _ _).mp hmark)

instance : DecidablePred MarkCompletes := fun _ => decidable_of_iff _ markCompletes_iff.symm

/-- **The adjustments whose slug the mark can complete.** -/
def ReadsMark (rule : AdjustModifierRule) : Prop :=
  ∃ slug, nonEmpty? rule.slug = some slug ∧ MarkCompletes slug

theorem toList_lower_adjustedSource (s : String) :
    (lower (adjustedSource s)).toList = (lower s).toList ++ mark := by
  have hall : (mark.all fun c => decide (IsLowered c.toNat)) = true := by decide +kernel
  exact lower_append_space s fun c hc =>
    of_decide_eq_true (List.all_eq_true.mp hall c (List.mem_cons_of_mem ' ' hc))

theorem slugIn_iff {s : String} :
    slugIn slug s = true ↔ (lower slug).toList <:+: (lower s).toList :=
  contains_iff

theorem slugIn_adjustedSource_iff {s : String} :
    slugIn slug (adjustedSource s) = true ↔ (lower slug).toList <:+: (lower s).toList ++ mark := by
  rw [slugIn_iff, toList_lower_adjustedSource]

/-- **A slug in a marked source**: it stands in the source, or the mark completes it. -/
theorem slugIn_adjustedSource {s : String} (h : slugIn slug (adjustedSource s) = true) :
    slugIn slug s = true ∨ MarkCompletes slug := by
  rw [slugIn_adjustedSource_iff, List.infix_append_iff_ne_nil] at h
  rcases h with h | h | ⟨front, start, -, hne, hslug, -, hmark⟩
  · exact .inl (slugIn_iff.mpr h)
  · exact .inr (.inside h)
  · exact .inr (.across hne ⟨front, hslug.symm⟩ hmark)

/-- What stands in a source stands in it once it is marked. -/
theorem slugIn_adjustedSource_of_slugIn {s : String} (h : slugIn slug s = true) :
    slugIn slug (adjustedSource s) = true :=
  slugIn_adjustedSource_iff.mpr ((slugIn_iff.mp h).trans (List.prefix_append _ _).isInfix)

/-- No slug stands in the empty text. -/
theorem slugIn_empty (hslug : slug ≠ "") : slugIn slug "" = false := by
  rw [Bool.eq_false_iff, Ne, slugIn_iff]
  exact fun h => hslug (lower_eq_nil_iff.mp (List.infix_nil.mp h))

/-- **A slug that the mark can complete** stands in some source once this is marked, and not
before: in the empty one, or in that of the characters before those that the mark begins with. -/
theorem exists_slugIn_adjustedSource (hslug : slug ≠ "") (h : MarkCompletes slug) :
    ∃ s, slugIn slug s = false ∧ slugIn slug (adjustedSource s) = true := by
  cases h with
  | inside h =>
    exact ⟨"", slugIn_empty hslug, slugIn_adjustedSource_iff.mpr h⟩
  | @across start hne hend hmark =>
    obtain ⟨front, hfront⟩ := hend
    have hlowered : (lower (String.ofList front)).toList = front := by
      have hmem : ∀ c ∈ front, IsLowered c.toNat := fun c hc =>
        isLowered_of_mem_lower (hfront ▸ List.mem_append_left start hc)
      unfold lower
      rw [String.toList_ofList, String.toList_ofList, lowerChars_of_isLowered _ _ hmem]
    refine ⟨String.ofList front, ?_, ?_⟩
    · rw [Bool.eq_false_iff, Ne, slugIn_iff, hlowered, ← hfront]
      intro hinfix
      have hlength := hinfix.length_le
      rw [List.length_append] at hlength
      exact hne (List.length_eq_zero_iff.mp (by omega))
    · rw [slugIn_adjustedSource_iff, hlowered, ← hfront]
      exact ((List.prefix_append_right_inj front).mpr hmark).isInfix

/-! ## One adjustment -/

/-- The modifiers that an outcome leaves; only an adjustment that is applied changes them. -/
def Outcome.modifiers (before : List Modifier) : Outcome → List Modifier
  | .applied modifiers => modifiers
  | .unmatched => before
  | .unresolved _ => before

/-- The modifiers after an adjustment at a level. -/
def process (rule : AdjustModifierRule) (level : Int) (ms : List Modifier) :
    Except ArithmeticFault (List Modifier) :=
  (rule.run level ms).map (·.modifiers ms)

/-- The modifiers after adjustments at a level, one after the other. -/
def processAll (level : Int) (rules : List AdjustModifierRule) (ms : List Modifier) :
    Except ArithmeticFault (List Modifier) :=
  rules.foldlM (fun ms rule => rule.process level ms) ms

/-- With its number, an adjustment is carried out, though it may concern nothing. -/
theorem process_of_made (h : rule.change level = .made change) (ms : List Modifier) :
    rule.process level ms = rule.adjust change ms := by
  unfold process run
  cases hfits : ms.any rule.fits with
  | true =>
    simp only [if_true, h]
    cases rule.adjust change ms <;> rfl
  | false => exact (rule.adjust_of_no_fit change hfits).symm

/-- What an adjustment gives was adjusted by its number, or is what it was. -/
theorem process_cases {ms out : List Modifier} (h : rule.process level ms = .ok out) :
    out = ms ∨ ∃ change, rule.adjust change ms = .ok out := by
  unfold process run at h
  split at h
  · split at h
    · cases h
    · cases h
      exact .inl rfl
    · next change _ =>
      rw [Faulting.map_map] at h
      obtain ⟨out', hout, rfl⟩ := Faulting.map_eq_ok.mp h
      exact .inr ⟨change, hout⟩
  · cases h
    exact .inl rfl

/-- **What an adjustment concerns**: what has its selector and, if it has a slug, the slug in its
label or source. -/
theorem fits_iff {m : Modifier} : rule.fits m = true ↔ m.selector = rule.selector ∧
    ∀ slug, nonEmpty? rule.slug = some slug →
      slugIn slug m.label = true ∨ slugIn slug m.source = true := by
  unfold fits
  rw [Bool.and_eq_true, beq_iff_eq]
  cases nonEmpty? rule.slug with
  | none => simp
  | some slug => simp

/-- **What one adjustment leaves matched**: a modifier that is adjusted is still concerned by what
concerned it before, and by nothing else unless the mark can complete its slug. -/
theorem fits_of_adjustOne {m n : Modifier} (h : other.adjustOne change m = .ok n) :
    (rule.fits m = true → rule.fits n = true) ∧
      (¬ rule.ReadsMark → rule.fits n = rule.fits m) := by
  unfold adjustOne at h
  split at h
  · obtain ⟨value, -, rfl⟩ := Faulting.map_eq_ok.mp h
    have hkept : rule.fits m = true →
        rule.fits { m with value, source := adjustedSource m.source } = true := by
      rw [fits_iff, fits_iff]
      exact And.imp_right fun hslug slug hnamed =>
        (hslug slug hnamed).imp_right slugIn_adjustedSource_of_slugIn
    refine ⟨hkept, fun hreads => Bool.eq_iff_iff.mpr ⟨?_, hkept⟩⟩
    rw [fits_iff, fits_iff]
    refine And.imp_right fun hslug slug hnamed => (hslug slug hnamed).imp_right fun hsource => ?_
    exact (slugIn_adjustedSource hsource).resolve_right fun hcompletes =>
      hreads ⟨slug, hnamed, hcompletes⟩
  · cases h
    exact ⟨id, fun _ => rfl⟩

/-! ## Runs of adjustments -/

theorem forall₂_trans {α : Type} {r : α → α → Prop} (hr : ∀ a b c, r a b → r b c → r a c) :
    ∀ {xs ys zs : List α}, List.Forall₂ r xs ys → List.Forall₂ r ys zs → List.Forall₂ r xs zs
  | _, _, _, .nil, .nil => .nil
  | _, _, _, .cons h t, .cons h' t' => .cons (hr _ _ _ h h') (forall₂_trans hr t t')

/-- What is matched stays matched, position by position. -/
theorem processAll_forall₂ : ∀ {rules : List AdjustModifierRule} {ms out : List Modifier},
    processAll level rules ms = .ok out →
      List.Forall₂ (fun m n => rule.fits m = true → rule.fits n = true) ms out
  | [], ms, out, h => by
    cases h
    exact List.forall₂_same.mpr fun m _ => id
  | other :: rules, ms, out, h => by
    obtain ⟨next, hnext, hrest⟩ := Faulting.foldlM_cons_eq_ok.mp h
    have hkept : List.Forall₂ (fun m n => rule.fits m = true → rule.fits n = true) ms next := by
      obtain rfl | ⟨change, hadjust⟩ := process_cases hnext
      · exact List.forall₂_same.mpr fun m _ => id
      · exact (Faulting.mapM_eq_ok_iff_forall₂.mp hadjust).imp fun _ _ hn =>
          (fits_of_adjustOne hn).1
    refine forall₂_trans ?_ hkept (processAll_forall₂ hrest)
    exact fun _ _ _ hfirst hsecond hm => hsecond (hfirst hm)

/-- Without a slug that the mark can complete, an adjustment concerns the same positions before and
after other adjustments. -/
theorem processAll_map_fits (hreads : ¬ rule.ReadsMark) :
    ∀ {rules : List AdjustModifierRule} {ms out : List Modifier},
      processAll level rules ms = .ok out → out.map rule.fits = ms.map rule.fits
  | [], ms, out, h => by
    cases h
    rfl
  | other :: rules, ms, out, h => by
    obtain ⟨next, hnext, hrest⟩ := Faulting.foldlM_cons_eq_ok.mp h
    rw [processAll_map_fits hreads hrest]
    obtain rfl | ⟨change, hadjust⟩ := process_cases hnext
    · rfl
    · exact Faulting.map_of_mapM (fun hn => (fits_of_adjustOne hn).2 hreads) hadjust

/-- An adjustment whose slug the mark can complete comes to concern a modifier that another
adjustment has marked. -/
theorem exists_map_fits_ne (hreads : rule.ReadsMark) (level : Int) : ∃ other ms out,
    other.change level = .made (.integer 0) ∧ processAll level [other] ms = .ok out ∧
      out.map rule.fits ≠ ms.map rule.fits := by
  obtain ⟨slug, hnamed, hcompletes⟩ := hreads
  have hslug : slug ≠ "" := by
    rintro rfl
    unfold nonEmpty? at hnamed
    split at hnamed
    · cases hnamed
    · next hne => exact hne hnamed
  obtain ⟨s, hbefore, hafter⟩ := exists_slugIn_adjustedSource hslug hcompletes
  let other : AdjustModifierRule := ⟨rule.selector, none, none, none⟩
  let m : Modifier := { label := "", source := s, value := .integer 0, selector := rule.selector }
  have hm : rule.fits m = false := by
    rw [Bool.eq_false_iff, Ne, fits_iff]
    rintro ⟨-, hany⟩
    have := hany slug hnamed
    simp [m, slugIn_empty hslug, hbefore] at this
  have hn : rule.fits { m with source := adjustedSource s } = true := by
    refine fits_iff.mpr ⟨rfl, fun slug' hnamed' => ?_⟩
    obtain rfl := Option.some.inj (hnamed.symm.trans hnamed')
    exact .inr hafter
  have hother : other.fits m = true := fits_iff.mpr ⟨rfl, nofun⟩
  have hchange : other.change level = .made (.integer 0) := rfl
  have hprocess : other.process level [m] = .ok [{ m with source := adjustedSource s }] := by
    rw [process_of_made hchange]
    refine Faulting.mapM_cons_eq_ok.mpr ⟨_, [], ?_, rfl, rfl⟩
    unfold adjustOne
    rw [if_pos hother]
    rfl
  refine ⟨other, [m], _, hchange, Faulting.foldlM_cons_eq_ok.mpr ⟨_, hprocess, rfl⟩, ?_⟩
  simp [hm, hn]

end AdjustModifierRule

/-! ## Added integers -/

/-- **A modifier after integers were added to it**, with a mark for each of them. -/
def Modifier.raised (m : Modifier) (amounts : List Int) : Modifier :=
  match m.value with
  | .integer v => { m with
    value := .integer (v + amounts.sum)
    source := AdjustModifierRule.adjustedSource^[amounts.length] m.source }
  | .real _ => m

namespace AdjustModifierRule

variable {rule : AdjustModifierRule} {level : Int}

/-- The adjustments that add an integer at a level. -/
def AddsInteger (rule : AdjustModifierRule) (level : Int) : Prop :=
  rule.mode.getD .add = .add ∧ ∃ n : Int, rule.change level = .made (.integer n)

/-- The integer by which a rule adjusts at a level, if it is one. -/
def amount (rule : AdjustModifierRule) (level : Int) : Int :=
  match rule.change level with
  | .made (.integer n) => n
  | _ => 0

/-- **The integers that rules add to a modifier** at a level. -/
def amounts (level : Int) (rules : List AdjustModifierRule) (m : Modifier) : List Int :=
  (rules.filter (·.fits m)).map (·.amount level)

theorem raised_nil (m : Modifier) : m.raised [] = m := by
  cases m with
  | mk label source value => cases value <;> simp [Modifier.raised]

/-- Integers are added one after the other. -/
theorem raised_append {m : Modifier} {v : Int} (hv : m.value = .integer v) (ns ns' : List Int) :
    (m.raised ns).raised ns' = m.raised (ns ++ ns') := by
  simp [Modifier.raised, hv, Int.add_assoc, Nat.add_comm ns.length, Function.iterate_add_apply]

/-- **One adjustment that adds an integer.** -/
theorem adjustOne_of_addsInteger (h : rule.AddsInteger level) {m : Modifier} {v : Int}
    (hv : m.value = .integer v) :
    rule.adjustOne (.integer (rule.amount level)) m = .ok (m.raised (amounts level [rule] m)) := by
  cases hfits : rule.fits m with
  | true =>
    have hamounts : amounts level [rule] m = [rule.amount level] := by simp [amounts, hfits]
    unfold adjustOne
    rw [if_pos hfits, h.1, hamounts]
    simp [AdjustMode.apply, Number.add, Number.combine, Except.map, Modifier.raised, hv]
  | false =>
    have hamounts : amounts level [rule] m = [] := by simp [amounts, hfits]
    unfold adjustOne
    rw [hamounts, raised_nil, hfits]
    rfl

theorem change_of_addsInteger (h : rule.AddsInteger level) :
    rule.change level = .made (.integer (rule.amount level)) := by
  obtain ⟨-, n, hchange⟩ := h
  simp [amount, hchange]

theorem exists_value_raised {m : Modifier} {v : Int} (hv : m.value = .integer v) (ns : List Int) :
    ∃ v' : Int, (m.raised ns).value = .integer v' := by
  simp [Modifier.raised, hv]

/-- The rules that fit a modifier fit it after one of them has been carried out. -/
theorem amounts_cons (h : rule.AddsInteger level) {rules : List AdjustModifierRule}
    (hreads : ∀ other ∈ rules, ¬ other.ReadsMark) {m : Modifier} {v : Int}
    (hv : m.value = .integer v) : amounts level (rule :: rules) m =
      amounts level [rule] m ++ amounts level rules (m.raised (amounts level [rule] m)) := by
  have hfits : rules.filter (·.fits (m.raised (amounts level [rule] m))) =
      rules.filter (·.fits m) :=
    List.filter_congr fun other hother =>
      (fits_of_adjustOne (adjustOne_of_addsInteger h hv)).2 (hreads other hother)
  have happend : (rule :: rules).filter (·.fits m) =
      [rule].filter (·.fits m) ++ rules.filter (·.fits m) :=
    List.filter_append [rule] rules
  unfold amounts at *
  rw [hfits, happend, List.map_append]

/-- **Integers are added to each modifier** by the rules that fit it, in closed form. -/
theorem processAll_eq_raised : ∀ {rules : List AdjustModifierRule} {ms : List Modifier},
    (∀ rule ∈ rules, rule.AddsInteger level ∧ ¬ rule.ReadsMark) →
      (∀ m ∈ ms, ∃ v : Int, m.value = .integer v) →
        processAll level rules ms = .ok (ms.map fun m => m.raised (amounts level rules m))
  | [], ms, _, _ => by
    have hself : (fun m : Modifier => m.raised (amounts level [] m)) = id := funext raised_nil
    rw [hself, List.map_id]
    rfl
  | rule :: rules, ms, h, hms => by
    obtain ⟨⟨hadds, -⟩, hrules⟩ := List.forall_mem_cons.mp h
    have hfirst : rule.process level ms =
        .ok (ms.map fun m => m.raised (amounts level [rule] m)) := by
      rw [process_of_made (change_of_addsInteger hadds)]
      refine Faulting.mapM_eq_ok_map fun m hm => ?_
      obtain ⟨v, hv⟩ := hms m hm
      exact adjustOne_of_addsInteger hadds hv
    have hintegers : ∀ n ∈ ms.map fun m => m.raised (amounts level [rule] m),
        ∃ v : Int, n.value = .integer v := by
      intro n hn
      obtain ⟨m, hm, rfl⟩ := List.mem_map.mp hn
      obtain ⟨v, hv⟩ := hms m hm
      exact exists_value_raised hv _
    refine Faulting.foldlM_cons_eq_ok.mpr ⟨_, hfirst, ?_⟩
    refine (processAll_eq_raised hrules hintegers).trans (congrArg _ ?_)
    rw [List.map_map]
    refine List.map_congr_left fun m hm => ?_
    obtain ⟨v, hv⟩ := hms m hm
    rw [Function.comp_apply, raised_append hv,
      amounts_cons hadds (fun other hother => (hrules other hother).2) hv]

/-- The order of the rules does not matter to what they add. -/
theorem raised_of_perm {rules rules' : List AdjustModifierRule} (hperm : rules'.Perm rules)
    (m : Modifier) : m.raised (amounts level rules' m) = m.raised (amounts level rules m) := by
  have hamounts : (amounts level rules' m).Perm (amounts level rules m) :=
    (hperm.filter _).map _
  unfold Modifier.raised
  rw [hamounts.sum_eq, hamounts.length_eq]

/-- **Runs of adjustments** at a level. What an adjustment concerns before any run it concerns after
the run, position by position, and nothing else unless the mark can complete its slug; if it can,
some single adjustment makes it concern more. Adjustments of the other kind that add integers to
integers may be carried out in any order: each modifier gets the sum of what is added to it, and a
mark for each time. -/
theorem processAll_fits (level : Int) :
    (∀ (rule : AdjustModifierRule) rules ms out, processAll level rules ms = .ok out →
      List.Forall₂ (fun m n => rule.fits m = true → rule.fits n = true) ms out ∧
        (¬ rule.ReadsMark → out.map rule.fits = ms.map rule.fits)) ∧
    (∀ rule : AdjustModifierRule, rule.ReadsMark → ∃ other ms out,
      other.change level = .made (.integer 0) ∧ processAll level [other] ms = .ok out ∧
        out.map rule.fits ≠ ms.map rule.fits) ∧
    ∀ rules rules' ms, rules'.Perm rules →
      (∀ rule ∈ rules, rule.AddsInteger level ∧ ¬ rule.ReadsMark) →
        (∀ m ∈ ms, ∃ v : Int, m.value = .integer v) →
          processAll level rules' ms = .ok (ms.map fun m => m.raised (amounts level rules m)) := by
  refine ⟨fun rule rules ms out h => ⟨processAll_forall₂ h, fun hreads =>
    processAll_map_fits hreads h⟩, fun rule hreads => exists_map_fits_ne hreads level, ?_⟩
  intro rules rules' ms hperm hrules hms
  rw [processAll_eq_raised (fun rule hrule => hrules rule (hperm.subset hrule)) hms]
  exact congrArg _ (List.map_congr_left fun m _ => raised_of_perm hperm m)

/-- A slug that is read from the mark concerns a modifier that an adjustment before it has marked,
and the two come to another end in the other order. -/
theorem processAll_completes_slug :
    let plain : AdjustModifierRule := ⟨"ac", none, none, some (.number (.integer 1))⟩
    let marked : AdjustModifierRule := ⟨"ac", some "adjusted", none, some (.number (.integer 1))⟩
    let shield : Modifier :=
      { label := "Shield", source := "Test", value := .integer 2, selector := "ac" }
    let once := { shield with value := .integer 3, source := "Test (adjusted)" }
    let twice := { shield with value := .integer 4, source := "Test (adjusted) (adjusted)" }
    marked.fits shield = false ∧ marked.fits once = true ∧
      processAll 1 [plain] [shield] = .ok [once] ∧
        processAll 1 [plain, marked] [shield] = .ok [twice] ∧
          processAll 1 [marked, plain] [shield] = .ok [once] := by
  refine ⟨by decide +kernel, by decide +kernel, by rfl, by rfl, by rfl⟩

/-- A shield that gets one and five, in either order. -/
theorem processAll_fits_of_shield :
    let plain : AdjustModifierRule := ⟨"ac", none, none, some (.number (.integer 1))⟩
    let named : AdjustModifierRule := ⟨"ac", some "SHIELD", some .add, some (.number (.integer 5))⟩
    let shield : Modifier :=
      { label := "Shield", source := "Test", value := .integer 2, selector := "ac" }
    let after := { shield with value := .integer 8, source := "Test (adjusted) (adjusted)" }
    (∀ rule ∈ [plain, named], rule.AddsInteger 1 ∧ ¬ rule.ReadsMark) ∧
      processAll 1 [plain, named] [shield] = .ok [after] ∧
        [after].map named.fits = [shield].map named.fits ∧
          processAll 1 [named, plain] [shield] = .ok [after] := by
  intro plain named shield after
  have hplain : plain.AddsInteger 1 ∧ ¬ plain.ReadsMark :=
    ⟨⟨rfl, 1, rfl⟩, by rintro ⟨slug, hslug, -⟩; cases hslug⟩
  have hnamed : named.AddsInteger 1 ∧ ¬ named.ReadsMark := by
    refine ⟨⟨rfl, 5, rfl⟩, ?_⟩
    rintro ⟨slug, hslug, hcompletes⟩
    obtain rfl : "SHIELD" = slug := Option.some.inj hslug
    exact absurd hcompletes (by decide +kernel)
  have hrules : ∀ rule ∈ [plain, named], rule.AddsInteger 1 ∧ ¬ rule.ReadsMark := by
    simp [hplain, hnamed]
  have hshield : ∀ m ∈ [shield], ∃ v : Int, m.value = .integer v := by simp [shield]
  have hplainFits : plain.fits shield = true := by decide +kernel
  have hnamedFits : named.fits shield = true := by decide +kernel
  have hamounts : amounts 1 [plain, named] shield = [1, 5] := by
    simp only [amounts, List.filter_cons, hplainFits, hnamedFits, if_true, List.filter_nil]
    rfl
  have hafter : [shield].map (fun m => m.raised (amounts 1 [plain, named] m)) = [after] := by
    rw [List.map_singleton, hamounts]
    rfl
  obtain ⟨hmatched, -, horder⟩ := processAll_fits 1
  have hfirst := horder [plain, named] [plain, named] [shield] (.refl _) hrules hshield
  have hsecond := horder [plain, named] [named, plain] [shield] (.swap ..) hrules hshield
  rw [hafter] at hfirst hsecond
  exact ⟨hrules, hfirst, (hmatched named _ _ _ hfirst).2 hnamed.2, hsecond⟩

end AdjustModifierRule

end RuleElements
