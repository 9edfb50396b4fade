import RuleElements.Data.Moment
import RuleElements.Numeric.Number

/-!
# Keys

A mapping holds its values under keys. Most keys are texts, but some formats allow for nothing,
truth values, numbers and moments as well.

Main definitions:
* `Key.same`: whether two keys are one.
* `Entries.get?`, `Entries.set`, `Entries.ofPairs`: a map from keys to values that keeps the order
  in which its keys came in.

Results:
* `Entries.get?_set`: what has been put under a key is found there.
-/

namespace RuleElements

/-- What a value stands under in a mapping. -/
inductive Key
  | null
  | boolean (b : Bool)
  | number (n : Number)
  | moment (m : Moment)
  | text (s : String)
  deriving DecidableEq, Repr, Inhabited

namespace Key

/-- The number that a key counts as; truth values count as one and zero. -/
def number? : Key → Option Number
  | .boolean b => some (.integer (if b then 1 else 0))
  | .number n => some n
  | _ => none

/-- The text that a key is. -/
def text? : Key → Option String
  | .text s => some s
  | _ => none

/-- Whether two keys are one. Numbers are compared by value, and moments by when they are. -/
def same (a b : Key) : Bool :=
  a == b ||
    match a, b with
    | .moment m, .moment n => m.same n
    | a, b =>
      match a.number?, b.number? with
      | some m, some n => m.same n
      | _, _ => false

theorem same_self (k : Key) : k.same k = true := by simp [same]

end Key

namespace Entries

variable {α : Type}

/-- The value under a key. -/
def get? : List (Key × α) → Key → Option α
  | [], _ => none
  | (key, a) :: rest, wanted => if key.same wanted then some a else get? rest wanted

/-- The entries with a value put under a key; a key that is there stays as it is. -/
def set : List (Key × α) → Key → α → List (Key × α)
  | [], key, a => [(key, a)]
  | (other, b) :: rest, key, a =>
    if other.same key then (other, a) :: rest else (other, b) :: set rest key a

/-- Pairs as entries: of several values under a key the last one counts, in the place and under the
key of the first. -/
def ofPairs (pairs : List (Key × α)) : List (Key × α) :=
  pairs.foldl (fun entries (key, a) => set entries key a) []

/-- The entries whose keys are texts. -/
def fields (entries : List (Key × α)) : List (String × α) :=
  entries.filterMap fun (key, a) => key.text?.map (·, a)

/-- Fields as entries. -/
def ofFields (fields : List (String × α)) : List (Key × α) :=
  fields.map fun (name, a) => (.text name, a)

/-- What has been put under a key is found there. -/
theorem get?_set (entries : List (Key × α)) (key : Key) (a : α) :
    get? (set entries key a) key = some a := by
  induction entries with
  | nil => simp [set, get?, Key.same_self]
  | cons entry rest ih =>
    obtain ⟨other, b⟩ := entry
    by_cases h : other.same key = true <;> simp [set, get?, h, ih]

theorem fields_ofFields (fields : List (String × α)) :
    Entries.fields (ofFields fields) = fields := by
  induction fields with
  | nil => rfl
  | cons field rest ih =>
    simp only [Entries.fields, ofFields, Key.text?] at ih ⊢
    simp [ih]

end Entries

end RuleElements
