import RuleElements.Data.Named
import RuleElements.Predicate.Basic
import RuleElements.Schema.Reader

/-!
# Reading and writing predicates

A statement is authored as a text or as an object with the keys `and`, `or` and `not`; a key that is
missing may be written with an underscore at its end. It is written back with all three keys in the
second spelling.

Main definitions:
* `Statement.read`, `Predicate.read`: from raw data.
* `Statement.toData`, `Predicate.toData`: to raw data.
-/

namespace RuleElements

/-- The name of a compound in messages. -/
def Statement.compoundName : String := "PredicateObject"

/-- The first of two readings that is there, or a missing part. -/
def Statement.part {α : Type} (first second : Option (Checked (Option α))) : Checked (Option α) :=
  match first with
  | some reading => reading
  | none => second.getD (.valid none)

mutual

/-- A statement from raw data. -/
def Statement.read : Data → Checked Statement
  | .text s => .valid (.option s)
  | .object fields =>
    let compound : Checked Statement :=
      Statement.compound
        <$> Statement.part (Statement.listAt "and" fields) (Statement.listAt "and_" fields)
        <*> Statement.part (Statement.listAt "or" fields) (Statement.listAt "or_" fields)
        <*> Statement.part (Statement.oneAt "not" fields) (Statement.oneAt "not_" fields)
    match compound with
    | .valid s => .valid s
    | .invalid issues =>
      .invalid (⟨["str"], .notText⟩ ::
        issues.map fun issue => ⟨Statement.compoundName :: issue.path, issue.problem⟩)
  | _ =>
    .invalid [⟨["str"], .notText⟩,
      ⟨[Statement.compoundName], .notModel Statement.compoundName⟩]

/-- The statements of a list from the place `index` on. -/
def Statement.readItems : Nat → List Data → Checked (List Statement)
  | _, [] => .valid []
  | index, item :: rest =>
    List.cons <$> (Statement.read item).under (toString index) <*>
      Statement.readItems (index + 1) rest

/-- The statements under a key, if the key is there. -/
def Statement.listAt (wanted : String) :
    List (String × Data) → Option (Checked (Option (List Statement)))
  | [] => none
  | (key, value) :: rest =>
    if key = wanted then
      match value with
      | .null => some (.valid none)
      | .list items => some (((Statement.readItems 0 items).map some).under wanted)
      | _ => some (.invalid [⟨[wanted], .notList⟩])
    else Statement.listAt wanted rest

/-- The statement under a key, if the key is there. -/
def Statement.oneAt (wanted : String) :
    List (String × Data) → Option (Checked (Option Statement))
  | [] => none
  | (key, value) :: rest =>
    if key = wanted then
      match value with
      | .null => some (.valid none)
      | value => some (((Statement.read value).map some).under wanted)
    else Statement.oneAt wanted rest

end

/-- A predicate from raw data with named entries only. -/
def Predicate.readNamed : Data → Checked Predicate
  | .list items => Statement.readItems 0 items
  | _ => .fail .notList

/-- A predicate from raw data. -/
def Predicate.read (d : Data) : Checked Predicate := Predicate.readNamed d.named

mutual

/-- A statement as raw data. -/
def Statement.toData : Statement → Data
  | .option name => .text name
  | .compound all any negated =>
    .object [("and_", Statement.listToData all), ("or_", Statement.listToData any),
      ("not_", Statement.oneToData negated)]

/-- Statements as raw data. -/
def Statement.itemsToData : List Statement → List Data
  | [] => []
  | s :: rest => s.toData :: Statement.itemsToData rest

/-- Statements that may be missing as raw data. -/
def Statement.listToData : Option (List Statement) → Data
  | none => .null
  | some items => .list (Statement.itemsToData items)

/-- A statement that may be missing as raw data. -/
def Statement.oneToData : Option Statement → Data
  | none => .null
  | some s => s.toData

end

/-- A predicate as raw data. -/
def Predicate.toData (p : Predicate) : Data := .list (Statement.itemsToData p)

mutual

/-- A statement is written with named entries only. -/
theorem Statement.named_toData : ∀ s : Statement, s.toData.named = s.toData
  | .option _ => rfl
  | .compound all any negated => by
    simp only [Statement.toData, Data.named, Data.namedFields, Statement.named_listToData all,
      Statement.named_listToData any, Statement.named_oneToData negated]

theorem Statement.namedItems_itemsToData : ∀ p : List Statement,
    Data.namedItems (Statement.itemsToData p) = Statement.itemsToData p
  | [] => rfl
  | s :: rest => by
    simp only [Statement.itemsToData, Data.namedItems, Statement.named_toData s,
      Statement.namedItems_itemsToData rest]

theorem Statement.named_listToData : ∀ p : Option (List Statement),
    (Statement.listToData p).named = Statement.listToData p
  | none => rfl
  | some items => by
    simp only [Statement.listToData, Data.named, Statement.namedItems_itemsToData items]

theorem Statement.named_oneToData : ∀ p : Option Statement,
    (Statement.oneToData p).named = Statement.oneToData p
  | none => rfl
  | some s => by simp only [Statement.oneToData, Statement.named_toData s]

end

/-- What a predicate is written as is read without leaving anything out. -/
theorem Predicate.read_toData (p : Predicate) :
    Predicate.read p.toData = Predicate.readNamed p.toData := by
  rw [Predicate.read, Predicate.toData, Data.named, Statement.namedItems_itemsToData]

end RuleElements
