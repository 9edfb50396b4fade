import RuleElements.Proofs.Processing.Step

/-!
# When a pass comes to its end

A rule element that cannot be processed is left out of the result, and its remark stands at its
place in the log. The one thing that ends a pass is the arithmetic of an adjustment: its operand has
too many digits to be read or is too large at the level, or it meets a modifier that earlier rule
elements left and that it cannot be added to or multiplied with. Whether this last thing happens is
a matter of pairs of rule elements.

Main definitions:
* `ParsedElement.Unprocessable`: a rule element that neither gives an entry nor adjusts.
* `Processing.OverflowsIn`: an adjustment of a list overflows on what is before it.

Results:
* `Processing.runFrom_withLogs`: earlier remarks have no influence on a run.
* `Processing.run_of_unprocessable`: what a pass does with a rule element that cannot be processed.
* `Processing.run_ok_iff_not_overflowsIn`: when a pass comes to its end.
-/

namespace RuleElements

/-- The aggregate with other remarks. -/
def Aggregate.withLogs (a : Aggregate) (logs : List String) : Aggregate := { a with logs }

/-- A join keeps the remarks on the left apart. -/
theorem Aggregate.withLogs_append (a b : Aggregate) (logs : List String) :
    a.withLogs logs ++ b = (a ++ b).withLogs (logs ++ b.logs) := rfl

/-- **A rule element that cannot be processed**: it gives no entry, and it is not an adjustment with
a number. -/
def ParsedElement.Unprocessable (p : Processing) (e : ParsedElement) : Prop :=
  e.result? p = none ∧
    ∀ rule, e.adjustment? = some rule → ∃ reasons, rule.change p.level = .inert reasons

/-- A rule element that cannot be processed does not change the pool. -/
theorem ParsedElement.Unprocessable.readjust_eq {p : Processing} {e : ParsedElement}
    (h : e.Unprocessable p) (ms : List Modifier) : e.readjust p ms = .ok ms := by
  unfold ParsedElement.readjust
  cases hadj : e.adjustment? with
  | none => rfl
  | some rule =>
    obtain ⟨reasons, hinert⟩ := h.2 rule hadj
    simp only [AdjustModifierRule.readjust, hinert]

namespace Processing

variable {p : Processing}

/-- **An overflow in a list**: one of its adjustments fails on the modifiers that the rule elements
before it leave. -/
def OverflowsIn (p : Processing) (elements : List ParsedElement) : Prop :=
  ∃ before e after rule middle, elements = before ++ e :: after ∧ e.adjustment? = some rule ∧
    p.run before = .ok middle ∧ rule.Overflows p.level middle.aggregate.modifiers

/-! ## The end of a run -/

/-- A rule element fails on a pool exactly if it is an adjustment that overflows there. -/
theorem readjust_fails_iff {e : ParsedElement} {ms : List Modifier} :
    (∃ fault, e.readjust p ms = .error fault) ↔
      ∃ rule, e.adjustment? = some rule ∧ rule.Overflows p.level ms := by
  unfold ParsedElement.readjust
  cases hadj : e.adjustment? with
  | none => simp
  | some rule => simp [AdjustModifierRule.readjust_fails_iff]

/-- A pass fails exactly on an overflow. -/
theorem run_fails_iff {elements : List ParsedElement} :
    (∃ fault, p.run elements = .error fault) ↔ p.OverflowsIn elements := by
  constructor
  · rintro ⟨fault, h⟩
    obtain ⟨before, e, after, middle, rfl, hbefore, hstep⟩ := Faulting.foldlM_eq_error_iff.mp h
    rw [Pass.step_eq_error_iff] at hstep
    obtain ⟨rule, hadj, hover⟩ := readjust_fails_iff.mp ⟨fault, hstep⟩
    exact ⟨before, e, after, rule, middle, rfl, hadj, hbefore, hover⟩
  · rintro ⟨before, e, after, rule, middle, rfl, hadj, hbefore, hover⟩
    obtain ⟨fault, hfault⟩ := readjust_fails_iff.mpr ⟨rule, hadj, hover⟩
    rw [← Pass.step_eq_error_iff] at hfault
    exact ⟨fault, Faulting.foldlM_eq_error_iff.mpr
      ⟨before, e, after, middle, rfl, hbefore, hfault⟩⟩

/-! ## Earlier remarks -/

/-- A step on the same entries after other remarks does the same. -/
theorem step_withLogs {pass pass' next : Pass} {e : ParsedElement} {logs : List String}
    (hpass : pass'.aggregate = pass.aggregate.withLogs logs) (h : pass.step p e = .ok next) :
    ∃ next' tail, pass'.step p e = .ok next' ∧ next.aggregate.logs = pass.aggregate.logs ++ tail ∧
      next'.aggregate = next.aggregate.withLogs (logs ++ tail) := by
  obtain ⟨c, ms, hc, hms, hnext⟩ := Pass.step_cases h
  have hsame : pass'.aggregate.modifiers = pass.aggregate.modifiers := by rw [hpass]; rfl
  cases hstep : pass'.step p e with
  | error fault =>
    rw [Pass.step_eq_error_iff, hsame, hms] at hstep
    cases hstep
  | ok next' =>
    obtain ⟨c', ms', hc', hms', hnext'⟩ := Pass.step_cases hstep
    rw [hsame] at hc' hms'
    obtain rfl := hc.unique hc' (.inr rfl)
    rw [hms] at hms'
    cases hms'
    refine ⟨next', c.toAggregate.logs, rfl, ?_, ?_⟩
    · rw [hnext]
      rfl
    · rw [hnext', hnext, hpass]
      exact Aggregate.withLogs_append (pass.aggregate.withModifiers ms) _ _

/-- **Earlier remarks have no influence on a run.** -/
theorem runFrom_withLogs : ∀ {elements : List ParsedElement} {pass pass' done : Pass}
    {logs : List String}, pass'.aggregate = pass.aggregate.withLogs logs →
      p.runFrom pass elements = .ok done →
      ∃ done' tail, p.runFrom pass' elements = .ok done' ∧
        done.aggregate.logs = pass.aggregate.logs ++ tail ∧
        done'.aggregate = done.aggregate.withLogs (logs ++ tail)
  | [], pass, pass', done, logs, hpass, h => by
    cases h
    exact ⟨pass', [], rfl, (List.append_nil _).symm, by rw [hpass, List.append_nil]⟩
  | e :: rest, pass, pass', done, logs, hpass, h => by
    obtain ⟨next, hstep, hrest⟩ := Faulting.foldlM_cons_eq_ok.mp h
    obtain ⟨next', head, hstep', hlogs, hnext'⟩ := step_withLogs hpass hstep
    obtain ⟨done', tail, hrest', hdone, hdone'⟩ := runFrom_withLogs hnext' hrest
    refine ⟨done', head ++ tail, Faulting.foldlM_cons_eq_ok.mpr ⟨next', hstep', hrest'⟩, ?_, ?_⟩
    · rw [hdone, hlogs, List.append_assoc]
    · rw [hdone', List.append_assoc]

/-- A step on a rule element that cannot be processed adds a remark and nothing else. -/
theorem step_of_unprocessable {pass next : Pass} {e : ParsedElement} (he : e.Unprocessable p)
    (h : pass.step p e = .ok next) :
    ∃ text, Accounts p pass.aggregate.modifiers e (.remark text) ∧
      next.aggregate =
        pass.aggregate.withLogs (pass.aggregate.logs ++ ["[Rules] " ++ text]) := by
  obtain ⟨c, ms, hc, hms, hnext⟩ := Pass.step_cases h
  rw [he.readjust_eq] at hms
  cases hms
  cases c with
  | remark text =>
    refine ⟨text, hc, hnext.trans ?_⟩
    exact (Aggregate.note_eq_append pass.aggregate ("[Rules] " ++ text)).symm
  | entry x =>
    have := hc.result?_eq
    rw [he.1] at this
    cases this

/-! ## Passes -/

/-- A pass skips a rule element that cannot be processed: it gives what it gives without that rule
element, but for one remark at its place. -/
theorem run_of_unprocessable {before after : List ParsedElement} {e : ParsedElement} {done : Pass}
    (he : e.Unprocessable p) (h : p.run (before ++ e :: after) = .ok done) :
    ∃ first rest text tail, p.run before = .ok first ∧ p.run (before ++ after) = .ok rest ∧
      Accounts p first.aggregate.modifiers e (.remark text) ∧
      rest.aggregate.logs = first.aggregate.logs ++ tail ∧
      done.aggregate =
        rest.aggregate.withLogs (first.aggregate.logs ++ ("[Rules] " ++ text) :: tail) := by
  obtain ⟨first, hfirst, hrest⟩ := Faulting.foldlM_append_eq_ok.mp h
  obtain ⟨next, hstep, hafter⟩ := Faulting.foldlM_cons_eq_ok.mp hrest
  obtain ⟨text, htext, hnext⟩ := step_of_unprocessable he hstep
  -- the run over the rest is taken back to where the remark was not yet made
  have hback : first.aggregate = next.aggregate.withLogs first.aggregate.logs := by
    rw [hnext]
    rfl
  obtain ⟨rest, tail, hrest', hlogs, haggregate⟩ := runFrom_withLogs hback hafter
  have hboth := Faulting.foldlM_append_eq_ok.mpr ⟨first, hfirst, hrest'⟩
  have hwhole : done.aggregate.logs = first.aggregate.logs ++ ("[Rules] " ++ text) :: tail := by
    rw [hlogs, hnext]
    exact (List.append_cons _ _ _).symm
  refine ⟨first, rest, text, tail, hfirst, hboth, htext, ?_, ?_⟩
  · rw [haggregate]
    rfl
  · rw [haggregate, ← hwhole]
    rfl

/-- **When a pass comes to its end.** It does exactly if no adjustment of the list overflows on the
modifiers before it. Then a rule element that cannot be processed is skipped: the pass gives what it
gives without that rule element, but for one remark at its place among the remarks. -/
theorem run_ok_iff_not_overflowsIn (p : Processing) (elements : List ParsedElement) :
    ((∃ done, p.run elements = .ok done) ↔ ¬ p.OverflowsIn elements) ∧
      ∀ before e after done, elements = before ++ e :: after → e.Unprocessable p →
        p.run elements = .ok done →
        ∃ first rest text tail, p.run before = .ok first ∧ p.run (before ++ after) = .ok rest ∧
          Accounts p first.aggregate.modifiers e (.remark text) ∧
          rest.aggregate.logs = first.aggregate.logs ++ tail ∧
          done.aggregate =
            rest.aggregate.withLogs (first.aggregate.logs ++ ("[Rules] " ++ text) :: tail) := by
  refine ⟨?_, ?_⟩
  · rw [Faulting.exists_ok_iff, ← run_fails_iff, not_exists]
  · rintro before e after done rfl he h
    exact run_of_unprocessable he h

/-- A bonus of one half and an adjustment by an integer of 401 digits end a pass. -/
theorem run_overflows_on_one_half :
    let p : Processing := { source := "Test" }
    let elements : List ParsedElement :=
      [.known ⟨some "x", none, .flatModifier
          ⟨"ac", .number (.real (.finite false (2 ^ 52) (-53))), none, none, none⟩⟩,
        .known ⟨none, none, .adjustModifier
          ⟨"ac", none, none, some (.number (.integer (10 ^ 400)))⟩⟩]
    ¬ ∃ done, p.run elements = .ok done := by
  intro p elements
  have h : (p.run elements).isOk = false := by decide +kernel
  rintro ⟨done, hdone⟩
  rw [hdone] at h
  cases h

/-- An adjustment whose operand is no formula, between a bonus and a penalty. -/
theorem run_ok_iff_not_overflowsIn_of_no_formula :
    let p : Processing := { source := "Test", level := 3 }
    let flat (label : String) (n : Int) : ParsedElement :=
      .known ⟨some label, none, .flatModifier ⟨"ac", .number (.integer n), none, none, none⟩⟩
    let e : ParsedElement :=
      .known ⟨none, none, .adjustModifier ⟨"ac", none, none, some (.text "level")⟩⟩
    ¬ p.OverflowsIn [flat "Up" 1, e, flat "Down" (-1)] ∧
      ∃ done rest, p.run [flat "Up" 1, e, flat "Down" (-1)] = .ok done ∧
        p.run [flat "Up" 1, flat "Down" (-1)] = .ok rest ∧
        done.aggregate.modifiers = rest.aggregate.modifiers ∧
        done.aggregate.logs.length = rest.aggregate.logs.length + 1 := by
  intro p flat e
  obtain ⟨done, h⟩ : ∃ done, p.run [flat "Up" 1, e, flat "Down" (-1)] = .ok done := ⟨_, rfl⟩
  have he : e.Unprocessable p := by
    refine ⟨rfl, fun rule hrule => ?_⟩
    cases hrule
    exact ⟨_, rfl⟩
  obtain ⟨hends, hskips⟩ := run_ok_iff_not_overflowsIn p [flat "Up" 1, e, flat "Down" (-1)]
  refine ⟨hends.mp ⟨done, h⟩, done, ?_⟩
  obtain ⟨first, rest, text, tail, -, hrest, -, hlogs, hdone⟩ :=
    hskips [flat "Up" 1] e [flat "Down" (-1)] done rfl he h
  refine ⟨rest, h, hrest, ?_, ?_⟩
  · rw [hdone]
    rfl
  · rw [hdone, hlogs]
    simp only [Aggregate.withLogs, List.length_append, List.length_cons]
    omega

end Processing

end RuleElements
