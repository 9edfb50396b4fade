import RuleElements.Data.Basic

/-!
# Named data

A thing is described by fields with names. Entries of a mapping under other keys say nothing about
it.

Results:
* `Data.named_named`: what has only named entries stays as it is.
-/

namespace RuleElements.Data

mutual

/-- The value without the entries, at any depth, whose keys are no texts. -/
def named : Data → Data
  | .list items => .list (namedItems items)
  | .object fields => .object (namedFields fields)
  | .mapping entries => .object (namedEntries entries)
  | other => other

/-- The items of a list with named entries only. -/
def namedItems : List Data → List Data
  | [] => []
  | item :: rest => named item :: namedItems rest

/-- The fields of an object with named entries only. -/
def namedFields : List (String × Data) → List (String × Data)
  | [] => []
  | (name, value) :: rest => (name, named value) :: namedFields rest

/-- The named entries of a mapping. -/
def namedEntries : List (Key × Data) → List (String × Data)
  | [] => []
  | (.text name, value) :: rest => (name, named value) :: namedEntries rest
  | _ :: rest => namedEntries rest

end

mutual

/-- What has only named entries stays as it is. -/
theorem named_named : ∀ d : Data, d.named.named = d.named
  | .null => rfl
  | .boolean _ => rfl
  | .number _ => rfl
  | .moment _ => rfl
  | .text _ => rfl
  | .list items => by simp only [named, namedItems_namedItems items]
  | .object fields => by simp only [named, namedFields_namedFields fields]
  | .mapping entries => by simp only [named, namedFields_namedEntries entries]

theorem namedItems_namedItems : ∀ items : List Data,
    namedItems (namedItems items) = namedItems items
  | [] => rfl
  | item :: rest => by simp only [namedItems, named_named item, namedItems_namedItems rest]

theorem namedFields_namedFields : ∀ fields : List (String × Data),
    namedFields (namedFields fields) = namedFields fields
  | [] => rfl
  | (_, value) :: rest => by
    simp only [namedFields, named_named value, namedFields_namedFields rest]

theorem namedFields_namedEntries : ∀ entries : List (Key × Data),
    namedFields (namedEntries entries) = namedEntries entries
  | [] => rfl
  | (.text _, value) :: rest => by
    simp only [namedEntries, namedFields, named_named value, namedFields_namedEntries rest]
  | (.null, _) :: rest => by simp only [namedEntries, namedFields_namedEntries rest]
  | (.boolean _, _) :: rest => by simp only [namedEntries, namedFields_namedEntries rest]
  | (.number _, _) :: rest => by simp only [namedEntries, namedFields_namedEntries rest]
  | (.moment _, _) :: rest => by simp only [namedEntries, namedFields_namedEntries rest]

end

end RuleElements.Data
