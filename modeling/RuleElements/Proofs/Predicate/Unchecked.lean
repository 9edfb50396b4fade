import RuleElements.Predicate.Codec
import RuleElements.Predicate.Untyped
import RuleElements.Proofs.Element.Restore

/-!
# Unchecked and checked predicates agree

A predicate can be evaluated as it was authored, or be checked first and evaluated as what it was
read as. The two agree on authored predicates. The check also reads the keys that a predicate is
written back with, which the other evaluation does not know, so objects with such keys are left out.

Main definitions:
* `Data.isAuthored`: whether the statements of raw data have no key of the written spelling.

Results:
* `Statement.read_object_eq_valid`: what an authored object is read as.
* `Data.evaluateStatement_of_read`: statements agree, by induction on raw data.
* `Data.evaluatePredicate_of_read`: predicates agree, and nothing is reported.
-/

namespace RuleElements

/-- The keys of a compound as it is authored. -/
def Statement.authoredKeys : List String := ["and", "or", "not"]

/-- The keys of a compound as it is written back. -/
def Statement.writtenKeys : List String := ["and_", "or_", "not_"]

namespace Data

mutual

/-- Whether the statements of a value, at any depth, have no key of the written spelling. Other keys
may be there, and what is under them does not count. -/
def isAuthored : Data → Bool
  | .list items => itemsAuthored items
  | .object fields => fieldsAuthored fields
  | .mapping entries => entriesAuthored entries
  | _ => true

/-- Whether all items of a list are authored. -/
def itemsAuthored : List Data → Bool
  | [] => true
  | item :: rest => isAuthored item && itemsAuthored rest

/-- Whether the fields of a statement are authored. -/
def fieldsAuthored : List (String × Data) → Bool
  | [] => true
  | (key, value) :: rest =>
    !Statement.writtenKeys.contains key &&
      (!Statement.authoredKeys.contains key || isAuthored value) && fieldsAuthored rest

/-- Whether the named entries of a statement are authored. -/
def entriesAuthored : List (Key × Data) → Bool
  | [] => true
  | (.text key, value) :: rest =>
    !Statement.writtenKeys.contains key &&
      (!Statement.authoredKeys.contains key || isAuthored value) && entriesAuthored rest
  | _ :: rest => entriesAuthored rest

end

/-! ## Named data -/

mutual

/-- What is authored is authored without the entries whose keys are no texts. -/
theorem isAuthored_named : ∀ d : Data, d.named.isAuthored = d.isAuthored
  | .null => rfl
  | .boolean _ => rfl
  | .number _ => rfl
  | .moment _ => rfl
  | .text _ => rfl
  | .list items => by simp only [named, isAuthored, itemsAuthored_named items]
  | .object fields => by simp only [named, isAuthored, fieldsAuthored_named fields]
  | .mapping entries => by simp only [named, isAuthored, fieldsAuthored_namedEntries entries]

theorem itemsAuthored_named : ∀ items : List Data,
    itemsAuthored (namedItems items) = itemsAuthored items
  | [] => rfl
  | item :: rest => by
    simp only [namedItems, itemsAuthored, isAuthored_named item, itemsAuthored_named rest]

theorem fieldsAuthored_named : ∀ fields : List (String × Data),
    fieldsAuthored (namedFields fields) = fieldsAuthored fields
  | [] => rfl
  | (_, value) :: rest => by
    simp only [namedFields, fieldsAuthored, isAuthored_named value, fieldsAuthored_named rest]

theorem fieldsAuthored_namedEntries : ∀ entries : List (Key × Data),
    fieldsAuthored (namedEntries entries) = entriesAuthored entries
  | [] => rfl
  | (.text _, value) :: rest => by
    simp only [namedEntries, fieldsAuthored, entriesAuthored, isAuthored_named value,
      fieldsAuthored_namedEntries rest]
  | (.null, _) :: rest => by
    simp only [namedEntries, entriesAuthored, fieldsAuthored_namedEntries rest]
  | (.boolean _, _) :: rest => by
    simp only [namedEntries, entriesAuthored, fieldsAuthored_namedEntries rest]
  | (.number _, _) :: rest => by
    simp only [namedEntries, entriesAuthored, fieldsAuthored_namedEntries rest]
  | (.moment _, _) :: rest => by
    simp only [namedEntries, entriesAuthored, fieldsAuthored_namedEntries rest]

end

/-- The fields of a statement are authored if the first one is, and the others are. -/
theorem fieldsAuthored_cons {key : String} {value : Data} {rest : List (String × Data)} :
    fieldsAuthored ((key, value) :: rest) = true ↔
      key ∉ Statement.writtenKeys ∧ (key ∈ Statement.authoredKeys → value.isAuthored = true) ∧
        fieldsAuthored rest = true := by
  simp [fieldsAuthored, Decidable.imp_iff_not_or, and_assoc]

end Data

/-! ## What is read -/

namespace Statement

variable {fields : List (String × Data)} {wanted : String}

/-- Authored fields have no list under a written key. -/
theorem listAt_of_authored (hwanted : wanted ∈ writtenKeys) :
    ∀ {fields : List (String × Data)}, Data.fieldsAuthored fields = true →
      listAt wanted fields = none
  | [], _ => listAt_nil
  | (key, value) :: rest, h => by
    obtain ⟨hkey, -, hrest⟩ := Data.fieldsAuthored_cons.mp h
    have hne : key ≠ wanted := fun heq => hkey (heq ▸ hwanted)
    rw [listAt_cons_of_ne hne, listAt_of_authored hwanted hrest]

/-- Authored fields have no statement under a written key. -/
theorem oneAt_of_authored (hwanted : wanted ∈ writtenKeys) :
    ∀ {fields : List (String × Data)}, Data.fieldsAuthored fields = true →
      oneAt wanted fields = none
  | [], _ => oneAt_nil
  | (key, value) :: rest, h => by
    obtain ⟨hkey, -, hrest⟩ := Data.fieldsAuthored_cons.mp h
    have hne : key ≠ wanted := fun heq => hkey (heq ▸ hwanted)
    rw [oneAt_cons_of_ne hne, oneAt_of_authored hwanted hrest]

/-- **An authored object** is read as the compound of what is under the three authored keys. -/
theorem read_object_eq_valid {s : Statement} (h : read (.object fields) = .valid s)
    (hauthored : Data.fieldsAuthored fields = true) :
    ∃ all any negated, s = .compound all any negated ∧
      part (listAt "and" fields) none = .valid all ∧
      part (listAt "or" fields) none = .valid any ∧
      part (oneAt "not" fields) none = .valid negated := by
  have hall : listAt "and_" fields = none := listAt_of_authored (by decide) hauthored
  have hany : listAt "or_" fields = none := listAt_of_authored (by decide) hauthored
  have hnegated : oneAt "not_" fields = none := oneAt_of_authored (by decide) hauthored
  rw [read, hall, hany, hnegated] at h
  split at h
  · rename_i compound hcompound
    cases h
    obtain ⟨f, negated, hf, hnegated, rfl⟩ := Checked.seq_eq_valid.mp hcompound
    obtain ⟨g, any, hg, hany, rfl⟩ := Checked.seq_eq_valid.mp hf
    obtain ⟨all, hall, rfl⟩ := Checked.map_eq_valid.mp hg
    exact ⟨all, any, negated, rfl, hall, hany, hnegated⟩
  · cases h

end Statement

/-! ## Evaluation -/

/-- Two truth values, of which the second one counts only if the first one is not `stop`. -/
theorem Verdict.settledBy_ofBool (stop b c : Bool) :
    (ofBool b).settledBy stop (fun _ => ofBool c) = ofBool (if b = stop then b else c) := by
  show (if b = stop then ofBool b else ofBool c) = _
  split <;> rfl

namespace Data

variable {ctx : Context}

/-- What stands under `not` is negated unless it is null. -/
theorem negatedAt_cons_self {value : Data} {rest : List (String × Data)} (h : value ≠ .null) :
    negatedAt ctx (("not", value) :: rest) = some (evaluateStatement ctx value).negate := by
  rw [negatedAt.eq_def]
  simp only [if_true]

mutual

/-- **A statement has the truth of what it is read as**, and nothing is reported. -/
theorem evaluateStatement_of_read : ∀ {d : Data} {s : Statement}, Statement.read d = .valid s →
    d.isAuthored = true → evaluateStatement ctx d = .ofBool (s.holds ctx)
  | .text name, s, h, _ => by
    cases h
    rfl
  | .object fields, s, h, ha => by
    obtain ⟨all, any, negated, rfl, hall, hany, hnegated⟩ := Statement.read_object_eq_valid h ha
    rw [evaluateStatement, negatedAt_of_oneAt hnegated ha,
      listedAt_of_listAt (by decide) hall ha, listedAt_of_listAt (by decide) hany ha]
    cases negated with
    | some negated => rfl
    | none => cases all <;> cases any <;> rfl

/-- The statements of a list, all of which are wanted (`stop` is false) or one of which is. -/
theorem evaluateItems_of_read : ∀ {items : List Data} {index : Nat} {stop : Bool}
    {p : List Statement}, Statement.readItems index items = .valid p →
      itemsAuthored items = true → evaluateItems ctx stop items =
        .ofBool (if stop then Statement.anyHolds ctx p else Statement.allHold ctx p)
  | [], index, stop, p, h, _ => by
    cases h
    cases stop <;> rfl
  | item :: rest, index, stop, p, h, ha => by
    rw [itemsAuthored, Bool.and_eq_true] at ha
    rw [Statement.readItems] at h
    obtain ⟨f, p', hf, hrest, rfl⟩ := Checked.seq_eq_valid.mp h
    obtain ⟨s, hs, rfl⟩ := Checked.map_eq_valid.mp hf
    rw [evaluateItems, evaluateStatement_of_read (Checked.under_eq_valid.mp hs) ha.1,
      evaluateItems_of_read hrest ha.2, Verdict.settledBy_ofBool]
    cases stop <;> cases hsm : s.holds ctx <;> simp [Statement.anyHolds, Statement.allHold, hsm]

theorem listedAt_of_listAt {wanted : String} (hwanted : wanted ∈ Statement.authoredKeys)
    {stop : Bool} : ∀ {fields : List (String × Data)} {p : Option (List Statement)},
      Statement.part (Statement.listAt wanted fields) none = .valid p →
        fieldsAuthored fields = true → listedAt ctx stop wanted fields = p.map fun ss =>
          .ofBool (if stop then Statement.anyHolds ctx ss else Statement.allHold ctx ss)
  | [], p, h, _ => by
    cases h
    rfl
  | (key, value) :: rest, p, h, ha => by
    obtain ⟨-, hvalue, hrest⟩ := fieldsAuthored_cons.mp ha
    by_cases hkey : key = wanted
    · obtain rfl := hkey
      cases value with
      | null =>
        simp only [Statement.listAt, if_true] at h
        cases h
        simp only [listedAt, if_true]
        rfl
      | list items =>
        simp only [Statement.listAt, if_true] at h
        obtain ⟨ss, hss, rfl⟩ := Checked.map_eq_valid.mp (Checked.under_eq_valid.mp h)
        simp only [listedAt, if_true, evaluateItems_of_read hss (hvalue hwanted)]
        rfl
      | _ =>
        simp only [Statement.listAt, if_true] at h
        cases h
    · rw [Statement.listAt_cons_of_ne hkey] at h
      rw [listedAt.eq_def]
      simp only [if_neg hkey]
      exact listedAt_of_listAt hwanted h hrest

theorem negatedAt_of_oneAt : ∀ {fields : List (String × Data)} {s : Option Statement},
    Statement.part (Statement.oneAt "not" fields) none = .valid s →
      fieldsAuthored fields = true →
        negatedAt ctx fields = s.map fun s => .ofBool (!s.holds ctx)
  | [], s, h, _ => by
    cases h
    rfl
  | (key, value) :: rest, s, h, ha => by
    obtain ⟨-, hvalue, hrest⟩ := fieldsAuthored_cons.mp ha
    by_cases hkey : key = "not"
    · obtain rfl := hkey
      by_cases hnull : value = .null
      · obtain rfl := hnull
        simp only [Statement.oneAt, if_true] at h
        cases h
        simp only [negatedAt, if_true]
        rfl
      · rw [Statement.oneAt_cons_self hnull] at h
        obtain ⟨negated, hnegated, rfl⟩ := Checked.map_eq_valid.mp (Checked.under_eq_valid.mp h)
        rw [negatedAt_cons_self hnull, evaluateStatement_of_read hnegated (hvalue (by decide))]
        rfl
    · rw [Statement.oneAt_cons_of_ne hkey] at h
      rw [negatedAt.eq_def]
      simp only [if_neg hkey]
      exact negatedAt_of_oneAt h hrest

end

/-- **Unchecked and checked predicates agree.** A predicate that passes the check and is authored
without the written keys has the same truth before and after it, and nothing is reported. -/
theorem evaluatePredicate_of_read {raw : Data} {p : Predicate} (ctx : Context)
    (hread : Predicate.read raw = .valid p) (hauthored : raw.isAuthored = true) :
    evaluatePredicate ctx raw = .ok (p.holds ctx, []) := by
  rw [← isAuthored_named] at hauthored
  unfold Predicate.read Predicate.readNamed at hread
  unfold evaluatePredicate evaluateNamed
  split at hread
  · rename_i items hitems
    rw [hitems] at hauthored ⊢
    cases items with
    | nil =>
      cases hread
      rfl
    | cons item rest => exact evaluateItems_of_read hread hauthored
  · cases hread

/-- Nested compounds with nulls, a part that does not count, a key that is no text, and written keys
under another key, where no statement stands. -/
theorem evaluatePredicate_of_read_of_nested :
    let raw : Data := .list
      [.text "armed",
        .object [("and", .null), ("or", .list [.text "raging", .object
          [("not", .object [("and", .list [.text "self:level:gte:5"]), ("or", .null)]),
            ("and", .list [.text "hidden"])]])],
        .mapping [(.text "not", .text "prone"), (.number (.integer 1), .text "prone"),
          (.text "note", .object [("and_", .list [.text "prone"])])]]
    let p : Predicate :=
      [.option "armed",
        .compound none (some [.option "raging", .compound (some [.option "hidden"]) none
          (some (.compound (some [.option "self:level:gte:5"]) none none))]) none,
        .compound none none (some (.option "prone"))]
    let ctx : Context := { options := ["armed"], level := some 3 }
    Predicate.read raw = .valid p ∧ raw.isAuthored = true ∧ p.holds ctx = true ∧
      evaluatePredicate ctx raw = .ok (p.holds ctx, []) := by
  intro raw p ctx
  have hread : Predicate.read raw = .valid p := by rfl
  have hauthored : raw.isAuthored = true := by decide
  exact ⟨hread, hauthored, by decide +kernel, evaluatePredicate_of_read ctx hread hauthored⟩

end Data

end RuleElements
