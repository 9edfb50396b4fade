/-!
# Fields

A map from names to values that keeps the order in which its names came in. Writing to a name that
is there replaces the value in its place; a new name goes to the end.

Main statements: `get?_set`, `get?_set_of_ne`, `get?_erase`, `get?_erase_of_ne` say what a look-up
sees after a change.
-/

namespace RuleElements.Fields

variable {α β : Type}

/-- The value under a name. -/
def get? : List (String × α) → String → Option α
  | [], _ => none
  | (name, a) :: rest, wanted => if name = wanted then some a else get? rest wanted

/-- Whether there is a value under a name. -/
def has (fields : List (String × α)) (name : String) : Bool := (get? fields name).isSome

/-- The fields with a value put under a name. -/
def set : List (String × α) → String → α → List (String × α)
  | [], name, a => [(name, a)]
  | (other, b) :: rest, name, a =>
    if other = name then (name, a) :: rest else (other, b) :: set rest name a

/-- The fields without a name. -/
def erase (fields : List (String × α)) (name : String) : List (String × α) :=
  fields.filter (·.1 ≠ name)

/-- The names in order. -/
def names (fields : List (String × α)) : List String := fields.map (·.1)

/-- The fields with a function applied to every value. -/
def mapValues (f : α → β) (fields : List (String × α)) : List (String × β) :=
  fields.map fun (name, a) => (name, f a)

/-- Pairs as fields: of several values under a name the last one counts, in the place of the
first. -/
def ofPairs (pairs : List (String × α)) : List (String × α) :=
  pairs.foldl (fun fields (name, a) => set fields name a) []

theorem get?_set (fields : List (String × α)) (name : String) (a : α) :
    get? (set fields name a) name = some a := by
  induction fields with
  | nil => simp [set, get?]
  | cons field rest ih =>
    obtain ⟨other, b⟩ := field
    by_cases h : other = name <;> simp [set, get?, h, ih]

theorem get?_set_of_ne {name wanted : String} (h : wanted ≠ name) (fields : List (String × α))
    (a : α) : get? (set fields name a) wanted = get? fields wanted := by
  induction fields with
  | nil => simp [set, get?, Ne.symm h]
  | cons field rest ih =>
    obtain ⟨other, b⟩ := field
    by_cases hn : other = name
    · subst hn
      simp [set, get?, Ne.symm h]
    · by_cases hw : other = wanted
      · subst hw
        simp [set, get?, h]
      · simp [set, get?, hn, hw, ih]

theorem get?_erase (fields : List (String × α)) (name : String) :
    get? (erase fields name) name = none := by
  induction fields with
  | nil => rfl
  | cons field rest ih =>
    by_cases h : field.1 = name
    · simpa [erase, h] using ih
    · simpa [erase, h, get?] using ih

theorem get?_erase_of_ne {name wanted : String} (h : wanted ≠ name) (fields : List (String × α)) :
    get? (erase fields name) wanted = get? fields wanted := by
  induction fields with
  | nil => rfl
  | cons field rest ih =>
    obtain ⟨other, b⟩ := field
    by_cases hn : other = name
    · subst hn
      simpa [erase, get?, Ne.symm h] using ih
    · by_cases hw : other = wanted
      · subst hw
        simp [erase, get?, h]
      · simpa [erase, get?, hn, hw] using ih

end RuleElements.Fields
