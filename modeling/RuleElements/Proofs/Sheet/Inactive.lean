import RuleElements.Proofs.Processing.Deletion
import RuleElements.Proofs.Sheet.Build

/-!
# Rules that do not apply

A rule whose entry applies in none of the contexts in which what the sources give is looked at has
no influence on the sheet. It may stand anywhere in its source and be of any kind: its entry is
filtered out wherever it could count, the modifiers that a potency rune brings go with it, and the
modifiers around it are adjusted as if it were not there. Only remarks tell that it was there.

Main definitions:
* `Sheet.field?`: a field of a sheet as raw data.

Results:
* `CharacterState.gathered_without`: what sources give without one of their rules.
* `Sheet.build_without_inactive_rule`: the sheet without a rule that does not apply.
-/

namespace RuleElements

/-- The circumstances in which a character's source is processed. -/
def CharacterState.processing (state : CharacterState) (source : RuleSource) : Processing where
  source := source.name
  level := state.level
  choices := some state.choices

/-- **What sources give without one of their rules** that gives an entry: the same of what applies,
wherever that entry does not. -/
theorem CharacterState.gathered_without {state : CharacterState} {before after : List RuleSource}
    {source : RuleSource} {xs ys : List (List (String × Data))} {rule : List (String × Data)}
    {x : Entry} {merged : Aggregate} (hrules : source.rules = xs ++ rule :: ys)
    (hx : (ParsedElement.ofFields rule).result? (state.processing source) = some x)
    (h : state.gathered (before ++ source :: after) = .ok merged) :
    ∃ rest, state.gathered (before ++ { source with rules := xs ++ ys } :: after) = .ok rest ∧
      ∀ ctx, Gated.applies ctx x = false → ∀ k,
        (merged.bucket k).filter (Gated.applies ctx) =
          (rest.bucket k).filter (Gated.applies ctx) := by
  obtain ⟨passes, hpasses, rfl⟩ := Faulting.map_eq_ok.mp h
  obtain ⟨first, others, hfirst, hothers, rfl⟩ := Faulting.mapM_append_eq_ok.mp hpasses
  obtain ⟨pass, last, hpass, hlast, rfl⟩ := Faulting.mapM_cons_eq_ok.mp hothers
  have hrun : (state.processing source).run
      (xs.map ParsedElement.ofFields ++ .ofFields rule :: ys.map ParsedElement.ofFields) =
        .ok pass := by
    rw [← List.map_cons, ← List.map_append, ← hrules]
    exact hpass
  obtain ⟨left, hleft, hsame⟩ := Processing.run_without hx hrun
  have hprocess : { source with rules := xs ++ ys }.process state.level (some state.choices) =
      .ok left := by
    rw [← List.map_append] at hleft
    exact hleft
  refine ⟨Aggregate.merge ((first ++ left :: last).map (·.aggregate)),
    Faulting.map_eq_ok.mpr ⟨first ++ left :: last, ?_, rfl⟩, fun ctx hctx k => ?_⟩
  · exact Faulting.mapM_append_eq_ok.mpr ⟨first, _, hfirst,
      Faulting.mapM_cons_eq_ok.mpr ⟨left, last, hprocess, hlast, rfl⟩, rfl⟩
  · simp only [Aggregate.bucket_merge, List.map_append, List.map_cons, List.flatMap_append,
      List.flatMap_cons, List.filter_append, hsame ctx hctx k]

namespace Sheet

/-- A field of a sheet as raw data, if its statistics can be summed up. -/
def field? (sheet : Sheet) (name : String) : Except ArithmeticFault (Option Data) := do
  return (← sheet.toData).fields?.bind (Fields.get? · name)

/-- The sheet with other remarks has all other fields as before. -/
theorem field?_withLogs (sheet : Sheet) (logs : List String) {name : String} (h : name ≠ "logs") :
    (sheet.withLogs logs).field? name = sheet.field? name := by
  unfold field? toData
  rw [bind_assoc, bind_assoc]
  -- the remarks stand under a name of their own
  refine bind_congr fun totals => congrArg Except.ok ?_
  refine (Fields.get?_erase_of_ne h _).symm.trans ?_
  refine Eq.trans ?_ (Fields.get?_erase_of_ne h _)
  refine congrArg (Fields.get? · name) ?_
  simp [Fields.erase, withLogs, tempHPValue]

/-- **A rule that does not apply has no influence.** Let a rule other than an adjustment give an
entry that applies in none of the contexts in which the sources are looked at: the base traits and
the final ones, without the collected options and with them. Then the sheet without that rule can be
built and differs in nothing but remarks. -/
theorem build_without_inactive_rule {state : CharacterState} {before after : List RuleSource}
    {source : RuleSource} {xs ys : List (List (String × Data))} {rule : List (String × Data)}
    {x : Entry} {merged : Aggregate} {sheet : Sheet} {log : List LogLine}
    (hrules : source.rules = xs ++ rule :: ys)
    (hbuild : build state (before ++ source :: after) = .ok (sheet, log))
    (hmerged : state.gathered (before ++ source :: after) = .ok merged)
    (hx : (ParsedElement.ofFields rule).result? (state.processing source) = some x)
    (hinactive : ∀ ctx ∈ state.contexts merged, Gated.applies ctx x = false) :
    ∃ sheet' log',
      build state (before ++ { source with rules := xs ++ ys } :: after) = .ok (sheet', log') ∧
      sheet' = sheet.withLogs sheet'.logs ∧
      ∀ name, name ≠ "logs" → sheet'.field? name = sheet.field? name := by
  obtain ⟨gathered, hgathered, hsheet⟩ := build_eq_ok.mp ⟨log, hbuild⟩
  obtain rfl : gathered = merged := Except.ok.inj (hgathered.symm.trans hmerged)
  obtain ⟨rest, hrest, hsame⟩ := CharacterState.gathered_without hrules hx hmerged
  have hlooks : state.LooksSame gathered rest := fun ctx hctx => hsame ctx (hinactive ctx hctx)
  obtain ⟨log', hbuild'⟩ := build_eq_ok.mpr ⟨rest, hrest, ofAggregate_congr hlooks hsheet⟩
  exact ⟨_, log', hbuild', rfl, fun name hname => field?_withLogs sheet rest.logs hname⟩

/-- A gated rune between a bonus and an adjustment of what stands before it. -/
theorem build_without_inactive_rule_of_rune :
    let state : CharacterState := { level := 3 }
    let bonus : List (String × Data) :=
      [("key", .text "FlatModifier"), ("selector", .text "strike-attack-roll"), ("value", .int 1)]
    let rune : List (String × Data) :=
      [("key", .text "WeaponPotency"), ("value", .int 2), ("predicate", .list [.text "drawn"])]
    let adjustment : List (String × Data) :=
      [("key", .text "AdjustModifier"), ("selector", .text "strike-attack-roll"),
        ("value", .int 4)]
    let sword : RuleSource := { id := "sword", name := "Sword", rules := [bonus, rune, adjustment] }
    let blunt : RuleSource := { id := "sword", name := "Sword", rules := [bonus, adjustment] }
    ∃ sheet log sheet' log', build state [sword] = .ok (sheet, log) ∧
      build state [blunt] = .ok (sheet', log') ∧
      sheet'.field? "statistics" = sheet.field? "statistics" := by
  intro state bonus rune adjustment sword blunt
  obtain ⟨merged, hmerged, hready⟩ : ∃ merged, state.gathered [sword] = .ok merged ∧
      ((ParsedElement.ofFields rune).result? (state.processing sword)).any (fun x =>
        (state.contexts merged).all fun ctx => !Gated.applies ctx x) = true :=
    ⟨_, rfl, by decide +kernel⟩
  obtain ⟨x, hx, hinactive⟩ := (Option.any_eq_true _ _).mp hready
  obtain ⟨⟨sheet, log⟩, hbuild⟩ : ∃ built, build state [sword] = .ok built :=
    Faulting.exists_ok_of_isOk (by decide +kernel)
  obtain ⟨sheet', log', hbuild', -, hfields⟩ :=
    build_without_inactive_rule (show sword.rules = [bonus] ++ rune :: [adjustment] from rfl)
      (show build state ([] ++ sword :: []) = _ from hbuild) hmerged hx
      fun ctx hctx => by simpa using List.all_eq_true.mp hinactive ctx hctx
  exact ⟨sheet, log, sheet', log', hbuild, hbuild', hfields "statistics" (by decide)⟩

end Sheet

end RuleElements
