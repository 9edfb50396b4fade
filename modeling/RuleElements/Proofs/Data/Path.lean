import RuleElements.Data.Basic
import RuleElements.Proofs.Fields

/-!
# Values at paths

A path is a list of names and leads from an object to a value within it. Raw data that comes from a
JSON text has objects with names only.

Main definitions:
* `Data.IsIntegral`: JSON data in which every number is an integer.
* `Data.valueAt?`: the value at a path.
* `Data.level?`: the fields in which a path goes on; none yet where nothing stands.

Results:
* `valueAt?_of_level?`: walking on from a value is walking on from its fields.
* `valueAt?_set_self`, `valueAt?_set_of_ne`, `under_set_self`, `under_set_of_ne`: what is seen after
  writing to a field.
-/

namespace RuleElements.Data

/-- **JSON data in which every number is an integer.** -/
inductive IsIntegral : Data → Prop
  | null : IsIntegral .null
  | boolean (b : Bool) : IsIntegral (.boolean b)
  | integer (n : Int) : IsIntegral (.number (.integer n))
  | text (s : String) : IsIntegral (.text s)
  | list {items : List Data} (h : ∀ item ∈ items, IsIntegral item) : IsIntegral (.list items)
  | object {fields : List (String × Data)} (h : ∀ field ∈ fields, IsIntegral field.2) :
    IsIntegral (.object fields)

/-- **The value at a path**, from an object on. -/
def valueAt? : Data → List String → Option Data
  | d, [] => some d
  | d, name :: rest =>
    (d.fields?.bind fun fields => Fields.get? fields name).bind fun inner => inner.valueAt? rest

/-- **The fields in which a path goes on**: those of an object, and none yet where nothing stands.
-/
def level? : Data → Option (List (String × Data))
  | .null => some []
  | .object fields => some fields
  | _ => none

/-- The value under a name; null if there is none. -/
def under (fields : List (String × Data)) (name : String) : Data :=
  (Fields.get? fields name).getD .null

variable {fields : List (String × Data)} {name : String} {d : Data} {path rest : List String}

theorem valueAt?_object_cons (fields : List (String × Data)) (name : String) (rest : List String) :
    (object fields).valueAt? (name :: rest) =
      (Fields.get? fields name).bind fun inner => inner.valueAt? rest := rfl

/-- A value other than null stands at a path of one name if it stands under the name. -/
theorem valueAt?_singleton_eq_some_iff (hnull : d ≠ .null) :
    (object fields).valueAt? [name] = some d ↔ under fields name = d := by
  rw [valueAt?_object_cons]
  unfold under
  cases Fields.get? fields name with
  | none => simpa [valueAt?] using hnull.symm
  | some inner => simp [valueAt?]

theorem IsIntegral.under (h : (Data.object fields).IsIntegral) (name : String) :
    (Data.under fields name).IsIntegral := by
  cases h with
  | object h =>
    unfold Data.under
    cases hname : Fields.get? fields name with
    | none => exact .null
    | some inner => exact h (name, inner) (Fields.mem_of_get? hname)

theorem IsIntegral.level? (h : d.IsIntegral) (hlevel : d.level? = some fields) :
    (Data.object fields).IsIntegral := by
  cases h with
  | null =>
    cases hlevel
    exact .object (by simp)
  | object h =>
    cases hlevel
    exact .object h
  | _ => cases hlevel

/-- What is no object of fields and not null is no level. -/
theorem IsIntegral.level?_eq_none_iff (h : d.IsIntegral) :
    d.level? = none ↔ d ≠ .null ∧ d.fields? = none := by
  cases h <;> simp [Data.level?, fields?]

/-- **Walking on from a value** is walking on from its fields, if there is a way to go. -/
theorem valueAt?_of_level? {inner : List (String × Data)} (hrest : rest ≠ [])
    (h : (under fields name).level? = some inner) :
    (object fields).valueAt? (name :: rest) = (object inner).valueAt? rest := by
  rw [valueAt?_object_cons]
  unfold under at h
  cases rest with
  | nil => exact absurd rfl hrest
  | cons next rest =>
    cases hname : Fields.get? fields name with
    | none =>
      rw [hname] at h
      cases h
      rfl
    | some d =>
      rw [hname, Option.getD_some] at h
      cases d <;> cases h <;> rfl

/-- Where there is no way to go, nothing is found. -/
theorem IsIntegral.valueAt?_of_no_level (hfields : (Data.object fields).IsIntegral)
    (hrest : rest ≠ []) (h : (Data.under fields name).level? = none) :
    (Data.object fields).valueAt? (name :: rest) = none := by
  obtain ⟨hnull, hnone⟩ := (hfields.under name).level?_eq_none_iff.mp h
  rw [valueAt?_object_cons]
  unfold Data.under at hnull hnone
  cases rest with
  | nil => exact absurd rfl hrest
  | cons next rest =>
    cases hname : Fields.get? fields name with
    | none => rfl
    | some d =>
      rw [hname, Option.getD_some] at hnone
      rw [Option.bind_some, valueAt?, hnone]
      rfl

/-! ## After writing -/

theorem valueAt?_set_self (fields : List (String × Data)) (name : String) (d : Data)
    (rest : List String) :
    (object (Fields.set fields name d)).valueAt? (name :: rest) = d.valueAt? rest := by
  rw [valueAt?_object_cons, Fields.get?_set]
  rfl

theorem valueAt?_set_of_ne {other : String} (h : other ≠ name) (fields : List (String × Data))
    (d : Data) (rest : List String) :
    (object (Fields.set fields name d)).valueAt? (other :: rest) =
      (object fields).valueAt? (other :: rest) := by
  rw [valueAt?_object_cons, valueAt?_object_cons, Fields.get?_set_of_ne h]

theorem under_set_self (fields : List (String × Data)) (name : String) (d : Data) :
    under (Fields.set fields name d) name = d := by
  rw [under, Fields.get?_set]
  rfl

theorem under_set_of_ne {other : String} (h : other ≠ name) (fields : List (String × Data))
    (d : Data) : under (Fields.set fields name d) other = under fields other := by
  rw [under, under, Fields.get?_set_of_ne h]

end RuleElements.Data
