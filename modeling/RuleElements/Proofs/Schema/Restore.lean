import RuleElements.Formula
import RuleElements.Vocabulary

/-!
# What is written is read

A reader restores what a writer writes if it reads every written value as it was. Where the value
may be missing, null stands for nothing, so a written value must not be null itself. Fields are read
by name, so a field that another name stands before is read as if that field were not there.

Main definitions:
* `Restores`: a reader that reads what a writer writes.
* `LawfulWorded`: words that stand for one value each.

Results:
* `Fields.optional_written`: a field that may be missing is restored with its value.
* `Data.asWord`, `Data.asTexts` and the other readers restore what is written for them (instances).
-/

namespace RuleElements

variable {α : Type}

/-- **A reader that restores what a writer writes.** Nothing is written as null. -/
class Restores (write : α → Data) (read : Data → Checked α) : Prop where
  read_write : ∀ a, read (write a) = .valid a
  write_ne_null : ∀ a, write a ≠ .null

/-- Types with a word of its own for each value. -/
class LawfulWorded (α : Type) [Worded α] : Prop where
  ofWord?_word : ∀ a : α, Worded.ofWord? (Worded.word a) = some a

instance : LawfulWorded ModifierType := ⟨by intro a; cases a <;> decide⟩
instance : LawfulWorded AdjustMode := ⟨by intro a; cases a <;> decide⟩
instance : LawfulWorded PropertyMode := ⟨by intro a; cases a <;> decide⟩
instance : LawfulWorded Phase := ⟨by intro a; cases a <;> decide⟩
instance : LawfulWorded Acuity := ⟨by intro a; cases a <;> decide⟩
instance : LawfulWorded Size := ⟨by intro a; cases a <;> decide⟩
instance : LawfulWorded HealingType := ⟨by intro a; cases a <;> decide⟩
instance : LawfulWorded ImmunityType := ⟨by intro a; cases a <;> decide⟩
instance : LawfulWorded DamageCategory := ⟨by intro a; cases a <;> decide⟩

/-! ## Values -/

instance : Restores Data.text Data.asText := ⟨fun _ => rfl, nofun⟩
instance : Restores Data.int Data.asInteger := ⟨fun _ => rfl, nofun⟩
instance : Restores Data.boolean Data.asBoolean := ⟨fun _ => rfl, nofun⟩
instance : Restores Data.object Data.asObject := ⟨fun _ => rfl, nofun⟩

instance [Worded α] [LawfulWorded α] : Restores (Data.ofWord (α := α)) Data.asWord where
  read_write a := by
    unfold Data.asWord Data.ofWord
    simp only [LawfulWorded.ofWord?_word]
  write_ne_null _ := nofun

instance : Restores Operand.toData Operand.read where
  read_write a := by cases a <;> rfl
  write_ne_null a := by cases a <;> exact nofun

namespace Checked

@[simp] theorem map_valid {β : Type} (f : α → β) (a : α) : (valid a).map f = valid (f a) := rfl

@[simp] theorem fmap_valid {β : Type} (f : α → β) (a : α) : f <$> valid a = valid (f a) := rfl

@[simp] theorem seq_valid {β : Type} (f : α → β) (a : α) : valid f <*> valid a = valid (f a) := rfl

@[simp] theorem under_valid (name : String) (a : α) : (valid a).under name = valid a := rfl

theorem under_eq_valid {name : String} {c : Checked α} {a : α} :
    c.under name = valid a ↔ c = valid a := by
  cases c <;> simp [under]

theorem map_eq_valid {β : Type} {f : α → β} {c : Checked α} {b : β} :
    c.map f = valid b ↔ ∃ a, c = valid a ∧ f a = b := by
  cases c <;> simp [map]

theorem seq_eq_valid {β : Type} {f : Checked (α → β)} {c : Checked α} {b : β} :
    f <*> c = valid b ↔ ∃ g a, f = valid g ∧ c = valid a ∧ g a = b := by
  cases f <;> cases c <;> simp [Seq.seq, seq]

theorem andThen_eq_valid {β : Type} {c : Checked α} {next : α → Checked β} {b : β} :
    c.andThen next = valid b ↔ ∃ a, c = valid a ∧ next a = valid b := by
  cases c <;> simp [andThen]

end Checked

theorem Data.readItems_map {write : α → Data} {read : Data → Checked α} [h : Restores write read] :
    ∀ (items : List α) (index : Nat), readItems read index (items.map write) = .valid items
  | [], _ => rfl
  | a :: rest, index => by
    simp only [List.map_cons, readItems, h.read_write, readItems_map rest, Checked.under_valid,
      Checked.fmap_valid, Checked.seq_valid]

/-- **A list is restored item by item.** -/
theorem Data.asList_map {write : α → Data} {read : Data → Checked α} [Restores write read]
    (items : List α) : asList read (.list (items.map write)) = .valid items :=
  readItems_map items 0

instance : Restores Data.texts Data.asTexts := ⟨Data.asList_map, nofun⟩

/-! ## Fields -/

namespace Fields

variable {name wanted : String} {d : Data} {rest : List (String × Data)} {read : Data → Checked α}

/-- **A field that must be there is restored with its value.** -/
@[simp] theorem required_written {write : α → Data} [h : Restores write read] (a : α) :
    required ((name, write a) :: rest) name read = .valid a := by
  simp [required, get?, h.read_write]

/-- **A field that may be missing is restored with its value.** -/
@[simp] theorem optional_written {write : α → Data} [h : Restores write read] (a : Option α) :
    optional ((name, .ofOption write a) :: rest) name read = .valid a := by
  cases a with
  | none => simp [optional, get?, Data.ofOption]
  | some a =>
    unfold optional get? Data.ofOption
    rw [if_pos rfl]
    split
    · rename_i heq
      cases heq
    · rename_i heq
      exact absurd (Option.some.inj heq) (h.write_ne_null a)
    · rename_i value _ heq
      cases heq
      rw [h.read_write]
      rfl

@[simp] theorem required_cons_of_ne (h : name ≠ wanted) :
    required ((name, d) :: rest) wanted read = required rest wanted read := by
  simp [required, get?, h]

@[simp] theorem optional_cons_of_ne (h : name ≠ wanted) :
    optional ((name, d) :: rest) wanted read = optional rest wanted read := by
  simp [optional, get?, h]

@[simp] theorem defaulted_cons_self (default : α) :
    defaulted ((name, d) :: rest) name default read = (read d).under name := by
  simp [defaulted, get?]

@[simp] theorem defaulted_cons_of_ne (default : α) (h : name ≠ wanted) :
    defaulted ((name, d) :: rest) wanted default read = defaulted rest wanted default read := by
  simp [defaulted, get?, h]

end Fields

end RuleElements
