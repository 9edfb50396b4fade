import RuleElements.Data.Basic

/-!
# Finite data

Raw data that is passed on may hold what the written form has no place for: numbers that are not
finite, for which null stands, moments, which become texts, and keys that are no texts, which become
names.

Results:
* `Data.finite_finite`: what has been made finite stays as it is.
-/

namespace RuleElements.Data

/-- The word for nothing among the names of fields. -/
def nullName : String := "None"

/-- The name that a key becomes. -/
def finiteName : Key → String
  | .null => nullName
  | .boolean b => if b then "true" else "false"
  | .number (.real .nan) => nullName
  | .number (.real (.infinite _)) => nullName
  | .number n => n.text
  | .moment m => m.iso
  | .text s => s

mutual

/-- The value with null in the place of the infinities and of what is not a number, and with texts
in the place of moments and of keys. -/
def finite : Data → Data
  | .number (.real .nan) => .null
  | .number (.real (.infinite _)) => .null
  | .moment m => .text m.iso
  | .list items => .list (finiteItems items)
  | .object fields => .object (finiteFields fields)
  | .mapping entries => .object (Fields.ofPairs (finiteEntries entries))
  | other => other

/-- The items of a list made finite. -/
def finiteItems : List Data → List Data
  | [] => []
  | item :: rest => finite item :: finiteItems rest

/-- The fields of an object made finite. -/
def finiteFields : List (String × Data) → List (String × Data)
  | [] => []
  | (name, value) :: rest => (name, finite value) :: finiteFields rest

/-- The entries of a mapping made finite. -/
def finiteEntries : List (Key × Data) → List (String × Data)
  | [] => []
  | (key, value) :: rest => (finiteName key, finite value) :: finiteEntries rest

end

theorem finiteFields_set (fields : List (String × Data)) (name : String) (value : Data) :
    finiteFields (Fields.set fields name value) =
      Fields.set (finiteFields fields) name value.finite := by
  induction fields with
  | nil => rfl
  | cons field rest ih =>
    obtain ⟨other, _⟩ := field
    by_cases h : other = name <;> simp [Fields.set, finiteFields, h, ih]

theorem finiteFields_foldl_set (pairs fields : List (String × Data)) :
    finiteFields (pairs.foldl (fun fields (name, a) => Fields.set fields name a) fields) =
      (finiteFields pairs).foldl (fun fields (name, a) => Fields.set fields name a)
        (finiteFields fields) := by
  induction pairs generalizing fields with
  | nil => rfl
  | cons pair rest ih =>
    obtain ⟨name, value⟩ := pair
    simp only [List.foldl_cons, finiteFields, ih, finiteFields_set]

theorem finiteFields_ofPairs (pairs : List (String × Data)) :
    finiteFields (Fields.ofPairs pairs) = Fields.ofPairs (finiteFields pairs) :=
  finiteFields_foldl_set pairs []

mutual

/-- What has been made finite stays as it is. -/
theorem finite_finite : ∀ d : Data, d.finite.finite = d.finite
  | .null => rfl
  | .boolean _ => rfl
  | .text _ => rfl
  | .moment _ => rfl
  | .number (.integer _) => rfl
  | .number (.real .nan) => rfl
  | .number (.real (.infinite _)) => rfl
  | .number (.real (.finite _ _ _)) => rfl
  | .list items => by simp only [finite, finiteItems_finiteItems items]
  | .object fields => by simp only [finite, finiteFields_finiteFields fields]
  | .mapping entries => by
    simp only [finite, finiteFields_ofPairs, finiteFields_finiteEntries entries]

theorem finiteItems_finiteItems : ∀ items : List Data,
    finiteItems (finiteItems items) = finiteItems items
  | [] => rfl
  | item :: rest => by
    simp only [finiteItems, finite_finite item, finiteItems_finiteItems rest]

theorem finiteFields_finiteFields : ∀ fields : List (String × Data),
    finiteFields (finiteFields fields) = finiteFields fields
  | [] => rfl
  | (_, value) :: rest => by
    simp only [finiteFields, finite_finite value, finiteFields_finiteFields rest]

theorem finiteFields_finiteEntries : ∀ entries : List (Key × Data),
    finiteFields (finiteEntries entries) = finiteEntries entries
  | [] => rfl
  | (_, value) :: rest => by
    simp only [finiteEntries, finiteFields, finite_finite value, finiteFields_finiteEntries rest]

end

end RuleElements.Data
