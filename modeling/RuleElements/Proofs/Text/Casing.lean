import RuleElements.Text.Casing

/-!
# Lowercase texts

A text in lowercase stays as it is when it is lowered again, over all of Unicode: no character that
a lowercase form consists of has a lowercase form of its own. The runs of the mapping are compared
in pairs. Their images lie beside the characters that they cover, or, where upper and lower case
alternate, on the other ones of every two.

Main definitions:
* `IsLowered`: code points that the lowercase mapping leaves alone.

Results:
* `isLowered_of_mem_lowerChar`: a lowercase form consists of such code points.
* `lower_lower`: lowering twice is lowering once.
* `lowerChars_append_space`: what stands before a space is lowered as if nothing came after it.
-/

namespace RuleElements.Text

/-- Whether a run of a case mapping covers a code point. -/
def runCovers (n : Nat) : Nat × Nat × Nat × Int → Bool := fun (first, last, step, _) =>
  first ≤ n && n ≤ last && (n - first) % step == 0

/-- **A code point that the lowercase mapping leaves alone.** -/
def IsLowered (n : Nat) : Prop :=
  (∀ run ∈ lowerRuns, runCovers n run = false) ∧ lowerExpansions.lookup n = none

instance : DecidablePred IsLowered := fun n =>
  inferInstanceAs (Decidable ((∀ run ∈ lowerRuns, runCovers n run = false) ∧
    lowerExpansions.lookup n = none))

/-! ## The images of the runs -/

/-- The first code point of the image of a run. -/
def imageFirst (run : Nat × Nat × Nat × Int) : Nat := (run.1 + run.2.2.2).toNat

/-- The last code point of the image of a run. -/
def imageLast (run : Nat × Nat × Nat × Int) : Nat := (run.2.1 + run.2.2.2).toNat

/-- Whether the image of a run lies where there are characters. -/
def hasValidImage (run : Nat × Nat × Nat × Int) : Bool :=
  Nat.blt 0 (imageFirst run) &&
    (Nat.blt (imageLast run) 0xD800 ||
      Nat.blt 0xDFFF (imageFirst run) && Nat.blt (imageLast run) 0x110000)

/-- Whether every code point of an image from `low` to `high`, on every second one if `twos`, lies
apart from those that a run covers. -/
def liesApart (low high : Nat) (twos : Bool) (run : Nat × Nat × Nat × Int) : Bool :=
  Nat.blt high run.1 || Nat.blt run.2.1 low ||
    twos && Nat.beq run.2.2.1 2 && Nat.beq ((low + run.1) % 2) 1

/-- Whether a run covers a single code point, or every second one. -/
def isSparse (run : Nat × Nat × Nat × Int) : Bool :=
  Nat.beq run.2.2.1 2 || Nat.beq run.1 run.2.1

/-- The code points with several characters as their lowercase form, as runs. -/
def expandedRuns : List (Nat × Nat × Nat × Int) := lowerExpansions.map fun e => (e.1, e.1, 1, 0)

theorem hasValidImage_lowerRuns : lowerRuns.all hasValidImage = true := by decide +kernel

theorem liesApart_lowerRuns : (lowerRuns.all fun run =>
    lowerRuns.all (liesApart (imageFirst run) (imageLast run) (isSparse run)) &&
      expandedRuns.all (liesApart (imageFirst run) (imageLast run) (isSparse run))) = true := by
  decide +kernel

variable {n : Nat} {run other : Nat × Nat × Nat × Int}

/-- A code point that a run covers has its image between the first and the last one. -/
theorem image_mem (hrun : hasValidImage run = true) (hn : runCovers n run = true) :
    imageFirst run ≤ (n + run.2.2.2).toNat ∧ (n + run.2.2.2).toNat ≤ imageLast run ∧
      (isSparse run = true → (n + run.2.2.2).toNat % 2 = imageFirst run % 2) := by
  obtain ⟨first, last, step, shift⟩ := run
  simp only [hasValidImage, runCovers, imageFirst, imageLast, isSparse, Bool.and_eq_true,
    Bool.or_eq_true, decide_eq_true_eq, beq_iff_eq, Nat.blt_eq, Nat.beq_eq] at *
  obtain ⟨⟨hfirst, hlast⟩, hstep⟩ := hn
  refine ⟨by omega, by omega, ?_⟩
  rintro (rfl | rfl) <;> omega

/-- A run does not cover what lies apart from it. -/
theorem not_covers_of_liesApart {low high : Nat} {twos : Bool} {m : Nat}
    (h : liesApart low high twos other = true) (hlow : low ≤ m) (hhigh : m ≤ high)
    (htwos : twos = true → m % 2 = low % 2) : runCovers m other = false := by
  obtain ⟨first, last, step, shift⟩ := other
  rw [Bool.eq_false_iff]
  intro hcovers
  simp only [liesApart, runCovers, Bool.and_eq_true, Bool.or_eq_true, decide_eq_true_eq,
    beq_iff_eq, Nat.blt_eq, Nat.beq_eq] at *
  obtain ⟨⟨hfirst, hlast⟩, hstep⟩ := hcovers
  rcases h with (h | h) | ⟨⟨hsparse, rfl⟩, h⟩
  · omega
  · omega
  · have := htwos hsparse
    omega

/-- **The image of a run has no lowercase form of its own.** -/
theorem isLowered_image (hrun : run ∈ lowerRuns) (hn : runCovers n run = true) :
    IsLowered (n + run.2.2.2).toNat := by
  obtain ⟨hfirst, hlast, hsparse⟩ :=
    image_mem (List.all_eq_true.mp hasValidImage_lowerRuns _ hrun) hn
  have hapart := List.all_eq_true.mp liesApart_lowerRuns _ hrun
  rw [Bool.and_eq_true, List.all_eq_true, List.all_eq_true] at hapart
  refine ⟨fun other hother =>
    not_covers_of_liesApart (hapart.1 other hother) hfirst hlast hsparse, ?_⟩
  rw [List.lookup_eq_none_iff]
  intro e he
  have hout := not_covers_of_liesApart
    (hapart.2 (e.1, e.1, 1, 0) (List.mem_map.mpr ⟨e, he, rfl⟩)) hfirst hlast hsparse
  rw [bne_iff_ne]
  intro heq
  rw [heq] at hout
  simp [runCovers] at hout

/-- The image of a run is a character. -/
theorem toNat_image (hrun : run ∈ lowerRuns) (hn : runCovers n run = true) :
    (Char.ofNat (n + run.2.2.2).toNat).toNat = (n + run.2.2.2).toNat := by
  have hrange := List.all_eq_true.mp hasValidImage_lowerRuns _ hrun
  obtain ⟨hfirst, hlast, -⟩ := image_mem hrange hn
  have hvalid : (n + run.2.2.2).toNat.isValidChar := by
    unfold Nat.isValidChar
    simp only [hasValidImage, Bool.and_eq_true, Bool.or_eq_true, Nat.blt_eq] at hrange
    omega
  unfold Char.ofNat
  rw [dif_pos hvalid]
  rfl

/-! ## Characters -/

/-- The image of a character under a case mapping, with the test of the runs named. -/
theorem caseImage_eq (runs : List (Nat × Nat × Nat × Int)) (expansions : List (Nat × List Nat))
    (c : Char) : caseImage runs expansions c =
      (runs.find? (runCovers c.toNat)).elim
        ((expansions.lookup c.toNat).elim [c] fun image => image.map Char.ofNat)
        fun run => [Char.ofNat (c.toNat + run.2.2.2).toNat] := by
  have hcovers : ∀ run, runCovers c.toNat run =
      (decide (run.1 ≤ c.toNat) && decide (c.toNat ≤ run.2.1) &&
        (c.toNat - run.1) % run.2.2.1 == 0) := fun _ => rfl
  unfold caseImage
  simp only [funext hcovers]
  cases runs.find? _ with
  | some run => rfl
  | none => cases expansions.lookup c.toNat <;> rfl

/-- What the mapping leaves alone is its own lowercase form, whatever stands around it. -/
theorem lowerChar_of_isLowered {c : Char} (h : IsLowered c.toNat) (before after : List Char) :
    lowerChar before c after = [c] := by
  obtain ⟨hruns, hexpansions⟩ := h
  have hsigma : c ≠ 'Σ' := by
    rintro rfl
    exact absurd (hruns (0x3A3, 0x3AB, 1, 32) (by decide)) (by decide)
  have hcapital : ¬ (65 ≤ c.toNat ∧ c.toNat ≤ 90) := by
    intro hcapital
    have hcovers := hruns (0x41, 0x5A, 1, 32) (by decide)
    simp only [runCovers, Nat.mod_one, beq_self_eq_true, Bool.and_true, Bool.and_eq_false_iff,
      decide_eq_false_iff_not] at hcovers
    omega
  have hlower : c.toLower = c := by
    unfold Char.toLower
    exact dif_neg hcapital
  have himage : caseImage lowerRuns lowerExpansions c = [c] := by
    have hfind : lowerRuns.find? (runCovers c.toNat) = none :=
      List.find?_eq_none.mpr fun run hrun => by simp [hruns run hrun]
    rw [caseImage_eq, hfind, hexpansions]
    rfl
  unfold lowerChar
  rw [if_neg hsigma, hlower, himage, ite_self]

/-- Below 128 the mapping leaves all but the capitals alone. -/
theorem isLowered_of_lt {n : Nat} (hn : n < 128) (hcapital : ¬ (65 ≤ n ∧ n ≤ 90)) :
    IsLowered n := by
  have hruns : (lowerRuns.all fun run =>
      Nat.ble 128 run.1 || Nat.beq run.1 65 && Nat.beq run.2.1 90) = true := by decide +kernel
  refine ⟨fun run hrun => ?_, ?_⟩
  · have hplace := List.all_eq_true.mp hruns run hrun
    obtain ⟨first, last, step, shift⟩ := run
    simp only [Bool.or_eq_true, Bool.and_eq_true, Nat.ble_eq, Nat.beq_eq] at hplace
    simp only [runCovers, Bool.and_eq_false_iff, decide_eq_false_iff_not]
    omega
  · rw [List.lookup_eq_none_iff, lowerExpansions, List.forall_mem_singleton, bne_iff_ne]
    omega

/-- The lowercase form of a character below 128 is one that is no capital. -/
theorem toLower_lt : ∀ n < 128, (Char.ofNat n).toLower.toNat < 128 ∧
    ¬ (65 ≤ (Char.ofNat n).toLower.toNat ∧ (Char.ofNat n).toLower.toNat ≤ 90) := by decide

/-- The characters that stand for one character in lowercase. -/
theorem isLowered_expansions : ∀ e ∈ lowerExpansions, ∀ n ∈ e.2,
    IsLowered (Char.ofNat n).toNat := by decide +kernel

/-- An image under the lowercase mapping consists of characters that it leaves alone. -/
theorem isLowered_of_mem_caseImage {c d : Char}
    (h : d ∈ caseImage lowerRuns lowerExpansions c) : IsLowered d.toNat := by
  rw [caseImage_eq] at h
  cases hfind : lowerRuns.find? (runCovers c.toNat) with
  | some run =>
    rw [hfind] at h
    have hrun := List.mem_of_find?_eq_some hfind
    have hcovers := List.find?_some hfind
    rw [List.mem_singleton.mp h, toNat_image hrun hcovers]
    exact isLowered_image hrun hcovers
  | none =>
    rw [hfind] at h
    cases hlookup : lowerExpansions.lookup c.toNat with
    | some image =>
      rw [hlookup] at h
      obtain ⟨n, hn, rfl⟩ := List.mem_map.mp h
      obtain ⟨before, after, hexpansions, -⟩ := List.lookup_eq_some_iff.mp hlookup
      exact isLowered_expansions (c.toNat, image) (by rw [hexpansions]; simp) n hn
    | none =>
      rw [hlookup] at h
      rw [List.mem_singleton.mp h]
      exact ⟨fun run hrun => by simpa using List.find?_eq_none.mp hfind run hrun, hlookup⟩

/-- **A lowercase form** consists of characters that the mapping leaves alone. -/
theorem isLowered_of_mem_lowerChar {before after : List Char} {c d : Char}
    (h : d ∈ lowerChar before c after) : IsLowered d.toNat := by
  unfold lowerChar at h
  split at h
  · rename_i hascii
    have hlower := toLower_lt c.toNat hascii
    rw [Char.ofNat_toNat] at hlower
    rw [List.mem_singleton.mp h]
    exact isLowered_of_lt hlower.1 hlower.2
  · split at h
    · rw [List.mem_singleton.mp h]
      split <;> decide +kernel
    · exact isLowered_of_mem_caseImage h

/-! ## Texts -/

/-- Lowercase characters stay as they are. -/
theorem lowerChars_of_isLowered : ∀ (before cs : List Char), (∀ c ∈ cs, IsLowered c.toNat) →
    lowerChars before cs = cs
  | _, [], _ => rfl
  | before, c :: cs, h => by
    obtain ⟨hc, hcs⟩ := List.forall_mem_cons.mp h
    rw [lowerChars, lowerChar_of_isLowered hc, lowerChars_of_isLowered (c :: before) cs hcs]
    rfl

/-- The lowercase form of characters consists of lowercase characters. -/
theorem isLowered_of_mem_lowerChars : ∀ {before cs : List Char} {d : Char},
    d ∈ lowerChars before cs → IsLowered d.toNat
  | before, c :: cs, d, h => by
    rw [lowerChars, List.mem_append] at h
    exact h.elim isLowered_of_mem_lowerChar isLowered_of_mem_lowerChars

/-- The lowercase form of a text consists of lowercase characters. -/
theorem isLowered_of_mem_lower {s : String} {c : Char} (h : c ∈ (lower s).toList) :
    IsLowered c.toNat := by
  unfold lower at h
  rw [String.toList_ofList] at h
  exact isLowered_of_mem_lowerChars h

/-- **Lowering twice is lowering once.** -/
theorem lower_lower (s : String) : lower (lower s) = lower s := by
  unfold lower
  rw [String.toList_ofList]
  exact congrArg String.ofList
    (lowerChars_of_isLowered [] _ fun c hc => isLowered_of_mem_lowerChars hc)

/-! ## Texts with a space in them -/

/-- A sigma before a space is one at the end: a space counts as a neighbour and has no case. -/
theorem endsWord_append_space (before after rest : List Char) :
    endsWord before (after ++ ' ' :: rest) = endsWord before after := by
  have hcounts : isCaseIgnorable ' ' = false := by decide +kernel
  have hcased : isCased ' ' = false := by decide +kernel
  unfold endsWord
  rw [List.find?_append]
  cases after.find? (!isCaseIgnorable ·) with
  | some a => rfl
  | none => simp [hcounts, hcased]

/-- **What stands before a space** is lowered as if nothing came after it. -/
theorem lowerChars_append_space (rest : List Char) : ∀ before cs : List Char,
    lowerChars before (cs ++ ' ' :: rest) =
      lowerChars before cs ++ lowerChars (cs.reverse ++ before) (' ' :: rest)
  | _, [] => rfl
  | before, c :: cs => by
    have hc : lowerChar before c (cs ++ ' ' :: rest) = lowerChar before c cs := by
      unfold lowerChar
      rw [endsWord_append_space]
    rw [List.cons_append, lowerChars, lowerChars, hc, lowerChars_append_space rest (c :: before) cs,
      List.append_assoc, List.reverse_cons, List.append_assoc]
    rfl

/-- A lowercase text after a space stays as it is. -/
theorem lower_append_space (s : String) {rest : List Char} (h : ∀ c ∈ rest, IsLowered c.toNat) :
    (lower (s ++ String.ofList (' ' :: rest))).toList = (lower s).toList ++ ' ' :: rest := by
  have hspace : IsLowered ' '.toNat := isLowered_of_lt (by decide) (by decide)
  unfold lower
  rw [String.toList_ofList, String.toList_ofList, String.toList_append, String.toList_ofList,
    lowerChars_append_space, lowerChars_of_isLowered _ _ (List.forall_mem_cons.mpr ⟨hspace, h⟩)]

/-- No character vanishes when it is lowered. -/
theorem lowerChar_ne_nil (before : List Char) (c : Char) (after : List Char) :
    lowerChar before c after ≠ [] := by
  have hexpansions : ∀ e ∈ lowerExpansions, e.2 ≠ [] := by decide
  unfold lowerChar
  split
  · exact List.cons_ne_nil _ _
  · split
    · exact List.cons_ne_nil _ _
    · rw [caseImage_eq]
      cases lowerRuns.find? (runCovers c.toNat) with
      | some run => exact List.cons_ne_nil _ _
      | none =>
        cases hlookup : lowerExpansions.lookup c.toNat with
        | none => exact List.cons_ne_nil _ _
        | some image =>
          obtain ⟨before, after, heq, -⟩ := List.lookup_eq_some_iff.mp hlookup
          have himage := hexpansions (c.toNat, image) (by rw [heq]; simp)
          simpa using himage

/-- Only the empty text has an empty lowercase form. -/
theorem lower_eq_nil_iff {s : String} : (lower s).toList = [] ↔ s = "" := by
  unfold lower
  rw [String.toList_ofList]
  constructor
  · intro h
    cases hs : s.toList with
    | nil => exact String.toList_injective hs
    | cons c cs =>
      rw [hs, lowerChars, List.append_eq_nil_iff] at h
      exact absurd h.1 (lowerChar_ne_nil _ _ _)
  · rintro rfl
    rfl

end RuleElements.Text
