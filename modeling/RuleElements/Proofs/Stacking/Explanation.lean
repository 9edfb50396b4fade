import RuleElements.Processing.Pass
import RuleElements.Proofs.Faulting
import RuleElements.Proofs.Stacking.Counting
import RuleElements.Stacking.Basic

/-!
# When an explanation fails

An explanation looks for the winner over each modifier that does not count and is not zero. A number
that is neither positive nor negative nor zero is a NaN, so every other modifier on no side of zero
has no effect, and every one on a side has a winner there. A modifier whose value is a NaN passes
for a penalty in the search, and finds nothing if no penalty of its type is there.

Main definitions:
* `Stacking.Says`: what a line says of a modifier.

Results:
* `exists_winner_iff`: when the search finds something.
* `line_says`: every modifier whose value is a number has its line.
* `line_eq_error_iff`: the modifiers that have none.
* `explain_fails_iff`: which lists are not explained, and what is said of the others.

Out of scope: how long a number in a line may be. An integer is written here with all its digits,
where an implementation may refuse to write more than `Text.digitLimit`.
-/

namespace RuleElements.Stacking

variable {ms counting : List Placed} {m w : Placed} {text : String}

/-- **What a line says** of a modifier beside those that count: that it counts, that it is zero, or
which modifier of its type and sign it does not go beyond. -/
inductive Says (counting : List Placed) (m : Placed) : String → Prop
  | applies (h : m ∈ counting) : Says counting m ("[Stack] " ++ tag m.modifier ++ " applies")
  | noEffect (h : m ∉ counting) (hzero : m.modifier.value.isZero = true) :
    Says counting m ("[Stack] " ++ tag m.modifier ++ " has no effect")
  | suppressed (w : Placed) (h : m ∉ counting) (hzero : m.modifier.value.isZero = false)
    (hw : w ∈ counting) (htype : w.modifier.type = m.modifier.type)
    (hsign : w.modifier.SameSign m.modifier)
    (hbeyond : m.modifier.goesBeyond w.modifier = false) :
    Says counting m ("[Stack] " ++ tag m.modifier ++ " suppressed by " ++ w.modifier.label ++ " " ++
      w.modifier.value.signedText)

/-! ## The search -/

theorem of_winner?_eq_some (h : winner? counting m = some w) :
    w ∈ counting ∧ w.modifier.type = m.modifier.type ∧
      w.modifier.isBonus = m.modifier.isBonus := by
  have hfound := List.find?_some h
  simp only [Bool.and_eq_true, beq_iff_eq] at hfound
  exact ⟨List.mem_of_find?_eq_some h, hfound⟩

/-- **When the search finds something**: over a bonus a bonus of its type, over anything else a
penalty of its type. -/
theorem exists_winner_iff : (∃ w, winner? (applied ms) m = some w) ↔
    ∃ a ∈ ms, a.modifier.type = m.modifier.type ∧
      if m.modifier.isBonus then a.modifier.isBonus = true else a.modifier.isPenalty = true := by
  constructor
  · rintro ⟨w, hw⟩
    obtain ⟨hmem, htype, hbonus⟩ := of_winner?_eq_some hw
    obtain ⟨hlist, hsign⟩ := of_mem_applied hmem
    refine ⟨w, hlist, htype, ?_⟩
    split
    · rename_i h
      exact hbonus.trans h
    · rename_i h
      exact hsign.resolve_left (by rw [hbonus]; exact h)
  · rintro ⟨a, ha, htype, hsign⟩
    have hside : a.modifier.isBonus = true ∨ a.modifier.isPenalty = true := by
      split at hsign
      · exact .inl hsign
      · exact .inr hsign
    obtain ⟨w, hw, hwtype, hwsign⟩ := exists_mem_applied ha hside
    -- The search asks only whether both are bonuses, so a penalty will do for a NaN.
    have hbonus : w.modifier.isBonus = m.modifier.isBonus := by
      rw [hwsign.isBonus_eq]
      split at hsign
      · rename_i h
        exact hsign.trans h.symm
      · rename_i h
        rw [Modifier.isBonus_of_isPenalty hsign, Bool.eq_false_iff.mpr h]
    rw [← Option.isSome_iff_exists, winner?, List.find?_isSome]
    exact ⟨w, hw, by simp [hwtype, htype, hbonus]⟩

/-- The winner over a bonus or a penalty has its sign. -/
theorem sameSign_of_winner? (hsign : m.modifier.isBonus = true ∨ m.modifier.isPenalty = true)
    (h : winner? (applied ms) m = some w) : w.modifier.SameSign m.modifier := by
  obtain ⟨hmem, -, hbonus⟩ := of_winner?_eq_some h
  rcases hsign with hm | hm
  · exact .of_isBonus (hbonus.trans hm) hm
  · rw [Modifier.isBonus_of_isPenalty hm] at hbonus
    exact .of_isPenalty ((of_mem_applied hmem).2.resolve_left (by simp [hbonus])) hm

/-! ## The lines -/

/-- A modifier whose value is a number but not zero is a bonus or a penalty. -/
theorem isBonus_or_isPenalty {m : Modifier} (hnan : m.value ≠ .real .nan)
    (hzero : m.value.isZero = false) : m.isBonus = true ∨ m.isPenalty = true := by
  rcases Number.sign_cases hnan with h | h | h
  · exact .inl h
  · exact .inr h
  · rw [hzero] at h
    cases h

/-- **Every modifier whose value is a number has its line.** -/
theorem line_says (hms : Placed.Apart ms) (hm : m ∈ ms) (hnan : m.modifier.value ≠ .real .nan) :
    ∃ text, line (applied ms) m = .ok text ∧ Says (applied ms) m text := by
  by_cases hmem : m ∈ applied ms
  · refine ⟨_, ?_, .applies hmem⟩
    rw [line, if_pos ((isAmong_applied_iff hms hm).mpr hmem)]
  have hamong : ¬ isAmong m (applied ms) = true := fun h =>
    hmem ((isAmong_applied_iff hms hm).mp h)
  by_cases hzero : m.modifier.value.isZero = true
  · refine ⟨_, ?_, .noEffect hmem hzero⟩
    rw [line, if_neg hamong, if_pos hzero]
  have hsign := isBonus_or_isPenalty hnan (Bool.eq_false_iff.mpr hzero)
  obtain ⟨w, hw⟩ : ∃ w, winner? (applied ms) m = some w := by
    refine exists_winner_iff.mpr ⟨m, hm, rfl, ?_⟩
    split
    · assumption
    · exact hsign.resolve_left ‹_›
  obtain ⟨hwmem, htype, -⟩ := of_winner?_eq_some hw
  have hsame := sameSign_of_winner? hsign hw
  have hexclusive : m.modifier.type.isExclusive = true := by
    by_contra h
    exact hmem (mem_applied_of_not_exclusive hm hsign (Bool.eq_false_iff.mpr h))
  refine ⟨_, ?_, .suppressed w hmem (Bool.eq_false_iff.mpr hzero) hwmem htype hsame
    (goesBeyond_of_mem_applied hwmem hm htype hexclusive hsame)⟩
  rw [line, if_neg hamong, if_neg hzero, hw]

/-- A NaN is on no side of zero, and not zero. -/
theorem sign_of_nan {m : Modifier} (h : m.value = .real .nan) :
    m.isBonus = false ∧ m.isPenalty = false ∧ m.value.isZero = false := by
  unfold Modifier.isBonus Modifier.isPenalty
  rw [h]
  exact ⟨rfl, rfl, rfl⟩

/-- The search over a NaN finds nothing if no modifier of its type is a penalty. -/
theorem winner?_eq_none_iff (hbonus : m.modifier.isBonus = false) :
    winner? (applied ms) m = none ↔
      ∀ p ∈ ms, p.modifier.type = m.modifier.type → p.modifier.isPenalty = false := by
  rw [← Option.not_isSome_iff_eq_none, Option.isSome_iff_exists, exists_winner_iff, hbonus]
  simp

/-- **The modifiers that have no line**: those whose value is a NaN, where no modifier of their type
is a penalty. -/
theorem line_eq_error_iff (hms : Placed.Apart ms) (hm : m ∈ ms) {fault : Fault} :
    line (applied ms) m = .error fault ↔ fault = .noWinner ∧ m.modifier.value = .real .nan ∧
      ∀ p ∈ ms, p.modifier.type = m.modifier.type → p.modifier.isPenalty = false := by
  by_cases hnan : m.modifier.value = .real .nan
  · -- A NaN does not count and is not zero, so that its line is left to the search.
    obtain ⟨hbonus, hpenalty, hzero⟩ := sign_of_nan hnan
    have hamong : ¬ isAmong m (applied ms) = true := by
      rw [isAmong_applied_iff hms hm]
      intro hmem
      simpa [hbonus, hpenalty] using (of_mem_applied hmem).2
    rw [line, if_neg hamong, if_neg (Bool.eq_false_iff.mp hzero), ← winner?_eq_none_iff hbonus]
    cases winner? (applied ms) m with
    | none => simp [hnan, eq_comm]
    | some w => simp
  · obtain ⟨text, htext, -⟩ := line_says hms hm hnan
    simp [htext, hnan]

/-! ## The explanation -/

/-- Modifiers that come from a list have places that tell them apart. -/
theorem apart_ofList (ms : List Modifier) : Placed.Apart (Placed.ofList ms) := by
  intro a ha b hb hplace
  obtain ⟨⟨m, i⟩, hm, rfl⟩ := List.mem_map.mp ha
  obtain ⟨⟨n, j⟩, hn, rfl⟩ := List.mem_map.mp hb
  obtain rfl : i = j := hplace
  rw [List.mk_mem_zipIdx_iff_getElem?] at hm hn
  obtain rfl : m = n := Option.some.inj (hm.symm.trans hn)
  rfl

/-- An explanation fails with nothing but a search that finds nothing. -/
theorem explain_eq_error (hms : Placed.Apart ms) {fault : Fault} (h : explain ms = .error fault) :
    fault = .noWinner ∧ ∃ m ∈ ms, m.modifier.value = .real .nan ∧
      ∀ p ∈ ms, p.modifier.type = m.modifier.type → p.modifier.isPenalty = false := by
  obtain ⟨m, hm, hline⟩ := Faulting.exists_mem_of_mapM_eq_error h
  obtain ⟨hfault, hnan⟩ := (line_eq_error_iff hms hm).mp hline
  exact ⟨hfault, m, hm, hnan⟩

/-- The lines of an explanation, modifier by modifier. -/
theorem says_of_explain (hms : Placed.Apart ms) {lines : List String}
    (h : explain ms = .ok lines) :
    List.Forall₂ (fun m text => m ∈ ms ∧
      (m.modifier.value ≠ .real .nan → Says (applied ms) m text)) ms lines := by
  refine (List.forall₂_and_left ms lines).mpr ⟨fun _ hm => hm, ?_⟩
  have heach := (List.forall₂_and_left (p := (· ∈ ms)) ms lines).mpr
    ⟨fun _ hm => hm, Faulting.mapM_eq_ok_iff_forall₂.mp h⟩
  refine heach.imp fun m text ⟨hm, hline⟩ hnan => ?_
  obtain ⟨text', htext', hsaid⟩ := line_says hms hm hnan
  cases hline.symm.trans htext'
  exact hsaid

/-- **When an explanation fails.** Modifiers are not explained exactly if the value of one of them
is a NaN and none of its type is a penalty. Otherwise each has a line, and every one whose value is
a number is said to count, to be zero, or to be suppressed by one of its type and sign that it does
not go beyond. -/
theorem explain_fails_iff (hms : Placed.Apart ms) :
    (explain ms = .error .noWinner ↔ ∃ m ∈ ms, m.modifier.value = .real .nan ∧
      ∀ p ∈ ms, p.modifier.type = m.modifier.type → p.modifier.isPenalty = false) ∧
    (explain ms ≠ .error .noWinner → ∃ lines, explain ms = .ok lines ∧
      List.Forall₂ (fun m text => m.modifier.value ≠ .real .nan → Says (applied ms) m text)
        ms lines) := by
  refine ⟨⟨fun h => (explain_eq_error hms h).2, ?_⟩, fun h => ?_⟩
  · rintro ⟨m, hm, hnan⟩
    obtain ⟨fault, hfails⟩ : ∃ fault, explain ms = .error fault :=
      Faulting.mapM_fails_iff.mpr ⟨m, hm, .noWinner, (line_eq_error_iff hms hm).mpr ⟨rfl, hnan⟩⟩
    rw [hfails, (explain_eq_error hms hfails).1]
  · cases hlines : explain ms with
    | error fault =>
      rw [hlines, (explain_eq_error hms hlines).1] at h
      exact absurd rfl h
    | ok lines =>
      exact ⟨lines, rfl, (says_of_explain hms hlines).imp fun _ _ => And.right⟩

/-- A bonus that is a NaN comes out of a pass and is not explained. -/
theorem explain_fails_on_nan :
    let p : Processing := { source := "Test" }
    let elements : List ParsedElement :=
      [.known ⟨some "Odd", none, .flatModifier ⟨"ac", .number (.real .nan), none, none, none⟩⟩]
    ∃ done, p.run elements = .ok done ∧ done.aggregate.modifiers.length = 1 ∧
      explainList done.aggregate.modifiers = .error .noWinner :=
  ⟨_, rfl, rfl, rfl⟩

/-- A NaN and a bonus of infinity beside a penalty of their type: all three have lines, and the NaN
alone has none. -/
theorem explain_fails_iff_of_infinity :
    let m (label : String) (x : Binary64) : Modifier :=
      { label, source := "Test", value := .real x, type := .status, selector := "ac" }
    let ms := [m "Odd" .nan, m "Vast" (.infinite false), m "Low" (.infinite true)]
    (∃ lines, explainList ms = .ok lines ∧ lines.length = 3) ∧
      explainList [m "Odd" .nan] = .error .noWinner := by
  intro m ms
  obtain ⟨hfails, hlines⟩ := explain_fails_iff (apart_ofList ms)
  have hstatus : ∀ x ∈ Placed.ofList ms, x.modifier.type = .status := by decide
  have hsucceeds : explainList ms ≠ .error .noWinner := by
    intro h
    obtain ⟨x, hx, -, hno⟩ := hfails.mp h
    have hlow := hno ⟨2, m "Low" (.infinite true)⟩ (by simp [Placed.ofList, ms])
      (hstatus x hx).symm
    cases hlow
  obtain ⟨lines, hok, heach⟩ := hlines hsucceeds
  refine ⟨⟨lines, hok, heach.length_eq.symm⟩, ?_⟩
  refine (explain_fails_iff (apart_ofList [m "Odd" .nan])).1.mpr
    ⟨⟨0, m "Odd" .nan⟩, List.mem_singleton_self _, rfl, fun p hp _ => ?_⟩
  cases List.mem_singleton.mp hp
  rfl

end RuleElements.Stacking
