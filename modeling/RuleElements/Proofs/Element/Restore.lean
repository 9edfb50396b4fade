import RuleElements.Element.Reader
import RuleElements.Element.Writer
import RuleElements.Proofs.Schema.Restore

/-!
# Rule elements are restored

A rule element is written with all fields of its kind, and reading what is written gives it back.
The statements of its predicate are written under other names than they are authored with; these
names are read as well, at every depth.

Results:
* `Statement.read_written`: a statement is restored, by induction on statements.
* `Effect.read_fields`: the fields of each kind are restored.
* `ParsedElement.ofData_toData`: what a payload turns out to be, written and read again.
-/

namespace RuleElements

/-! ## Predicates -/

namespace Statement

variable {wanted name : String} {d : Data} {rest : List (String × Data)}

theorem listAt_nil : listAt wanted [] = none := by simp only [listAt]

theorem oneAt_nil : oneAt wanted [] = none := by simp only [oneAt]

theorem listAt_cons_of_ne (h : name ≠ wanted) :
    listAt wanted ((name, d) :: rest) = listAt wanted rest := by
  rw [listAt.eq_def]
  exact if_neg h

theorem oneAt_cons_of_ne (h : name ≠ wanted) :
    oneAt wanted ((name, d) :: rest) = oneAt wanted rest := by
  rw [oneAt.eq_def]
  exact if_neg h

theorem toData_ne_null (s : Statement) : s.toData ≠ .null := by
  intro h
  cases s with
  | option name => cases h
  | compound all any negated => cases h

/-- What stands under a name is read as a statement unless it is null. -/
theorem oneAt_cons_self (h : d ≠ .null) :
    oneAt wanted ((wanted, d) :: rest) = some (((read d).map some).under wanted) := by
  unfold oneAt
  rw [if_pos rfl]
  split
  · exact absurd rfl h
  · rfl

/-- A statement under a name is read if it is restored. -/
theorem oneAt_some {s : Statement} (h : Statement.read s.toData = .valid s) :
    oneAt wanted ((wanted, oneToData (some s)) :: rest) = some (.valid (some s)) := by
  unfold oneToData
  rw [oneAt_cons_self (toData_ne_null s), h]
  rfl

end Statement

mutual

/-- **A statement is restored.** -/
theorem Statement.read_written : ∀ s : Statement, Statement.read s.toData = .valid s
  | .option _ => by simp only [Statement.toData, Statement.read]
  | .compound all any negated => by
    -- the authored names are not there, so the written ones are read
    simp only [Statement.toData, Statement.read, Statement.listAt_cons_of_ne,
      Statement.oneAt_cons_of_ne, Statement.listAt_nil, Statement.oneAt_nil,
      Statement.listAt_written, Statement.oneAt_written, Statement.part, Option.getD_some, ne_eq,
      String.reduceEq, not_false_eq_true]
    rfl

theorem Statement.readItems_written : ∀ (p : List Statement) (index : Nat),
    Statement.readItems index (Statement.itemsToData p) = .valid p
  | [], _ => by simp only [Statement.itemsToData, Statement.readItems]
  | s :: rest, index => by
    simp only [Statement.itemsToData, Statement.readItems, Statement.read_written s,
      Statement.readItems_written rest, Checked.under_valid, Checked.fmap_valid,
      Checked.seq_valid]

theorem Statement.listAt_written (wanted : String) (rest : List (String × Data)) :
    ∀ p : Option (List Statement),
      Statement.listAt wanted ((wanted, Statement.listToData p) :: rest) = some (.valid p)
  | none => by simp only [Statement.listToData, Statement.listAt, if_true]
  | some p => by
    simp only [Statement.listToData, Statement.listAt, if_true, Statement.readItems_written p]
    rfl

theorem Statement.oneAt_written (wanted : String) (rest : List (String × Data)) :
    ∀ p : Option Statement,
      Statement.oneAt wanted ((wanted, Statement.oneToData p) :: rest) = some (.valid p)
  | none => by simp only [Statement.oneToData, Statement.oneAt, if_true]
  | some s => Statement.oneAt_some (Statement.read_written s)

end

instance : Restores Predicate.toData Predicate.read where
  read_write p := (Predicate.read_toData p).trans (Statement.readItems_written p 0)
  write_ne_null _ := nofun

/-! ## Parts of rule elements -/

instance : Restores Names.toData Names.read where
  read_write names := by
    cases names with
    | one name => rfl
    | many names =>
      have hnames : Data.asTexts (Data.texts names) = .valid names := Restores.read_write names
      show (match Data.asTexts (Data.texts names) with
        | .valid names => Checked.valid (Names.many names)
        | .invalid _ => _) = _
      rw [hnames]
  write_ne_null names := by cases names <;> exact nofun

instance : Restores ChoiceOption.toData ChoiceOption.read where
  read_write c := by
    simp [ChoiceOption.toData, ChoiceOption.read, Data.asModel, Data.fields?,
      ChoiceOption.readFields]
  write_ne_null _ := nofun

instance :
    Restores DiceOverride.toData (Data.asModel "DamageDiceOverride" DiceOverride.readFields) where
  read_write o := by
    simp [DiceOverride.toData, Data.asModel, Data.fields?, DiceOverride.readFields]
  write_ne_null _ := nofun

/-- **The fields of each kind are restored.** -/
theorem Effect.read_fields (e : RuleElement) : Effect.read e.fields e.kind = .valid e.effect := by
  obtain ⟨label, predicate, effect⟩ := e
  cases effect <;>
    simp [RuleElement.fields, RuleElement.kind, Effect.kind, Effect.fields, Effect.read,
      Effect.read.readRune, RuneRule.fields, Data.asList_map]

/-- A rule element is restored if no rule between its fields is broken. -/
theorem RuleElement.read_fields {e : RuleElement} (h : e.effect.faults = []) :
    RuleElement.read e.kind e.fields = .valid e := by
  unfold RuleElement.read
  rw [Effect.read_fields]
  simp [RuleElement.fields, Checked.andThen, Effect.require, h]

/-- A rule element that was read breaks no rule between its fields. -/
theorem RuleElement.faults_of_read {kind : Kind} {fields : List (String × Data)} {e : RuleElement}
    (h : RuleElement.read kind fields = .valid e) : e.effect.faults = [] := by
  unfold RuleElement.read Checked.andThen at h
  split at h
  · unfold Effect.require at h
    split at h
    · rename_i hfaults
      cases h
      exact hfaults
    · cases h
  · cases h

/-- **A rule element that breaks no rule is what it is written as.** -/
theorem ParsedElement.ofData_fields {e : RuleElement} (h : e.effect.faults = []) :
    ParsedElement.ofData e.toData = .known e := by
  have hkey : Fields.get? e.fields "key" = some (.text e.kind.name) := by
    simp [RuleElement.fields, Fields.get?]
  have hname : e.kind.name ≠ "" := by cases e.kind <;> decide
  unfold RuleElement.toData ofData ofFields
  simp only [hkey, if_neg hname, Kind.ofName?_name, RuleElement.read_fields h, Checked.under_valid]

/-- A rule element that a payload turns out to be breaks no rule. -/
theorem ParsedElement.faults_of_ofData {raw : Data} {e : RuleElement}
    (h : ParsedElement.ofData raw = .known e) : e.effect.faults = [] := by
  unfold ofData at h
  split at h
  · unfold ofFields at h
    repeat' split at h
    all_goals cases h
    rename_i hread
    exact RuleElement.faults_of_read (Checked.under_eq_valid.mp hread)
  · cases h

/-- **Rule elements survive being written and read again.** What a payload turns out to be, if it is
understood, is what its written form turns out to be: of any kind, and with any predicate. -/
theorem ParsedElement.ofData_toData {raw : Data} {e : RuleElement}
    (h : ParsedElement.ofData raw = .known e) :
    ParsedElement.ofData (ParsedElement.known e).toData = .known e :=
  ofData_fields (faults_of_ofData h)

/-- Dice with a number in a text, a truth value for a number, and a predicate three levels deep,
authored with the names that are not written back. -/
theorem ParsedElement.ofData_toData_of_dice :
    let raw : Data := .object
      [("key", .text "DamageDice"), ("selector", .text "strike"), ("diceNumber", .text " 2 "),
        ("dieSize", .text "d8"), ("override", .object [("diceNumber", .boolean true)]),
        ("predicate", .list
          [.object [("not", .object [("or",
            .list [.text "raging", .object [("and", .list [.text "self:level:gte:5"])]])])]]),
        ("priority", .int 3)]
    let dice : RuleElement :=
      { label := none
        predicate := some
          [.compound none none (some (.compound none
            (some [.option "raging", .compound (some [.option "self:level:gte:5"]) none none])
            none))]
        effect := .damageDice ⟨"strike", some 2, some "d8", none, none, some ⟨some 1, none, none⟩⟩ }
    ofData raw = .known dice ∧ ofData (known dice).toData = .known dice := by
  intro raw dice
  have h : ofData raw = .known dice := by rfl
  exact ⟨h, ofData_toData h⟩

end RuleElements
