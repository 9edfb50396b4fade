import RuleElements.Entry.Basic
import RuleElements.Fault
import RuleElements.Text.Split

/-!
# Granted items and property changes

What rules give to a character beside numbers: items, and values in its nested data.

Main definitions:
* `GrantedItem.active`: the grants that apply, without redundant repeats.
* `PropertyMode.apply`: a value after a change.
* `PropertyChange.apply`: data after a change at its path.
* `PropertyChange.applyAll`: data after changes in order.
-/

namespace RuleElements

/-! ## Granted items

An item is granted once, unless its grant allows duplicates.
-/

namespace GrantedItem

/-- Whether an item with a given identifier, or with none, is among the granted ones. -/
def isGranted (items : List GrantedItem) (uuid : Option String) : Bool :=
  items.any (·.uuid == uuid)

/-- Whether a grant repeats an earlier one and must not. -/
def isRedundant (granted : List GrantedItem) (item : GrantedItem) : Bool :=
  item.uuid.any (· != "") && !item.allowDuplicate && isGranted granted item.uuid

/-- The grants with a further one taken in. -/
def keep (granted : List GrantedItem) (item : GrantedItem) : List GrantedItem :=
  if isRedundant granted item then granted else granted ++ [item]

/-- The grants that apply, without redundant repeats. -/
def active (items : List GrantedItem) (ctx : Option Context) : List GrantedItem :=
  (items.filter (Gated.appliesIn ctx)).foldl keep []

end GrantedItem

/-! ## Property changes

A property stands at a dotted path in nested data. Changes are made in the order of their phases,
then of their priorities, and otherwise in the order given.
-/

/-- The value of a property: a number, or a truth value that counts as one or zero. -/
inductive Quantity
  | flag (b : Bool)
  | number (n : Number)
  deriving DecidableEq, Repr, Inhabited

namespace Quantity

/-- The value as a number. -/
def toNumber : Quantity → Number
  | .flag b => .integer (if b then 1 else 0)
  | .number n => n

/-- The value as raw data. -/
def toData : Quantity → Data
  | .flag b => .boolean b
  | .number n => .number n

/-- The value that raw data holds. -/
def ofData? : Data → Option Quantity
  | .boolean b => some (.flag b)
  | .number n => some (.number n)
  | _ => none

end Quantity

namespace PropertyMode

/-- A value after a change by a number. A missing value is raised or lowered to the number at once
and counts as zero otherwise. -/
def apply (mode : PropertyMode) (current : Option Quantity) (change : Number) :
    Except ArithmeticFault Quantity :=
  let base := current.getD (.number (.integer 0))
  match mode with
  | .override => .ok (.number change)
  | .add => (base.toNumber.add change).map .number
  | .subtract => (base.toNumber.sub change).map .number
  | .multiply => (base.toNumber.mul change).map .number
  | .upgrade =>
    .ok (if current.isNone || base.toNumber.lt change then .number change else base)
  | .downgrade =>
    .ok (if current.isNone || change.lt base.toNumber then .number change else base)

/-- A value after a change with the given word. -/
def applyWord (word : String) (current : Option Quantity) (change : Number) :
    Except Fault Quantity :=
  match Worded.ofWord? word with
  | some (mode : PropertyMode) => Fault.ofArithmetic (mode.apply current change)
  | none => .error (.unknownMode word)

end PropertyMode

namespace PropertyChange

/-- The fields of an object after a change at the end of a path. -/
def applyAt (c : PropertyChange) : List String → List (String × Data) →
    Except Fault (List (String × Data))
  | [], fields => .ok fields
  | [name], fields =>
    let finish (current : Option Quantity) : Except Fault (List (String × Data)) :=
      (Fault.ofArithmetic (c.mode.apply current c.value)).map fun value =>
        Fields.set fields name value.toData
    match (Fields.get? fields name).getD .null with
    | .null => finish none
    | other =>
      match Quantity.ofData? other with
      | some current => finish (some current)
      | none => .error (.notNumeric c.path)
  | part :: rest, fields =>
    match (Fields.get? fields part).getD .null with
    | .null => (c.applyAt rest []).map fun inner => Fields.set fields part (.object inner)
    | .object inner =>
      (c.applyAt rest inner).map fun inner => Fields.set fields part (.object inner)
    | .mapping entries =>
      (c.applyAt rest (Entries.fields entries)).map fun inner =>
        Fields.set fields part (.mapping (Entries.ofPairs (entries ++ Entries.ofFields inner)))
    | _ => .error (.crossesValue c.path part)

/-- Data after a change; missing levels of its path are made. -/
def apply (data : List (String × Data)) (c : PropertyChange) :
    Except Fault (List (String × Data)) :=
  c.applyAt (Text.splitAt '.' c.path) data

/-- Whether a change is not made after another one. -/
def notAfter (a b : PropertyChange) : Bool :=
  a.phase.order < b.phase.order || (a.phase.order == b.phase.order && a.priority ≤ b.priority)

/-- Changes in the order in which they are made. -/
def sorted (changes : List PropertyChange) : List PropertyChange := changes.mergeSort notAfter

/-- Data after changes in order. -/
def applyAll (data : List (String × Data)) (changes : List PropertyChange) :
    Except Fault (List (String × Data)) :=
  (sorted changes).foldlM apply data

end PropertyChange

end RuleElements
