import RuleElements.Data.Fields
import RuleElements.Data.Key
import RuleElements.Text.Class

/-!
# Raw data

What authored content is before anyone has checked it: nothing, truth values, numbers, moments,
texts, lists, and objects with ordered fields. An object that has a key which is no text is a
mapping.

Main definitions:
* `Data`, `Data.ofEntries`, `Data.fields?`: raw values, and objects by their entries.
* `Data.display`: a raw value as messages show it.

Results:
* `Data.ofEntries_ofFields`: entries whose keys are texts make an object.
-/

namespace RuleElements

/-- A raw value. -/
inductive Data
  | null
  | boolean (b : Bool)
  | number (n : Number)
  | moment (m : Moment)
  | text (s : String)
  | list (items : List Data)
  | object (fields : List (String × Data))
  /-- an object with a key that is no text -/
  | mapping (entries : List (Key × Data))
  deriving Repr, Inhabited

/-- A key as a raw value. -/
def Key.toData : Key → Data
  | .null => .null
  | .boolean b => .boolean b
  | .number n => .number n
  | .moment m => .moment m
  | .text s => .text s

namespace Data

/-- An integer as a raw value. -/
def int (n : Int) : Data := .number (.integer n)

/-- A list of texts as a raw value. -/
def texts (ss : List String) : Data := .list (ss.map .text)

/-- A raw value for something that may be missing. -/
def ofOption {α : Type} (f : α → Data) : Option α → Data
  | none => .null
  | some a => f a

/-- The key that a value is; lists and objects are none. -/
def toKey? : Data → Option Key
  | .null => some .null
  | .boolean b => some (.boolean b)
  | .number n => some (.number n)
  | .moment m => some (.moment m)
  | .text s => some (.text s)
  | _ => none

/-- An object from its entries. -/
def ofEntries (entries : List (Key × Data)) : Data :=
  if entries.all fun (key, _) => key.text?.isSome then .object (Entries.fields entries)
  else .mapping entries

/-- The fields of an object, those of its entries whose keys are texts. -/
def fields? : Data → Option (List (String × Data))
  | .object fields => some fields
  | .mapping entries => some (Entries.fields entries)
  | _ => none

/-- Values that stand for nothing: null, false, zero, and the empty text, list and object. -/
def isEmpty : Data → Bool
  | .null => true
  | .boolean b => !b
  | .number n => n.isZero
  | .moment _ => false
  | .text s => s == ""
  | .list items => items.isEmpty
  | .object fields => fields.isEmpty
  | .mapping entries => entries.isEmpty

/-- The word for the type of a value in messages. -/
def typeName : Data → String
  | .null => "NoneType"
  | .boolean _ => "bool"
  | .number (.integer _) => "int"
  | .number (.real _) => "float"
  | .moment m => m.typeName
  | .text _ => "str"
  | .list _ => "list"
  | .object _ => "dict"
  | .mapping _ => "dict"

/-- Entries whose keys are texts make an object. -/
theorem ofEntries_ofFields (fields : List (String × Data)) :
    ofEntries (Entries.ofFields fields) = .object fields := by
  have texts : (Entries.ofFields fields).all (fun (key, _) => key.text?.isSome) = true := by
    simp [Entries.ofFields, Key.text?]
  rw [ofEntries, if_pos texts, Entries.fields_ofFields]

/-! ## Raw data in messages

Messages show texts in quotes, lists in square brackets, objects in curly brackets with
`name: value` pairs, and the words `None`, `True` and `False`.
-/

/-- The form of a key in messages. -/
def displayKey : Key → String
  | .null => "None"
  | .boolean b => if b then "True" else "False"
  | .number n => n.text
  | .moment m => m.display
  | .text s => Text.quoted s

mutual

/-- The form of a value in messages. -/
def display : Data → String
  | .null => "None"
  | .boolean b => if b then "True" else "False"
  | .number n => n.text
  | .moment m => m.display
  | .text s => Text.quoted s
  | .list items => "[" ++ ", ".intercalate (displayItems items) ++ "]"
  | .object fields => "\x7b" ++ ", ".intercalate (displayFields fields) ++ "\x7d"
  | .mapping entries => "\x7b" ++ ", ".intercalate (displayEntries entries) ++ "\x7d"

/-- The forms of the items of a list. -/
def displayItems : List Data → List String
  | [] => []
  | item :: rest => display item :: displayItems rest

/-- The forms of the fields of an object. -/
def displayFields : List (String × Data) → List String
  | [] => []
  | (name, value) :: rest => (Text.quoted name ++ ": " ++ display value) :: displayFields rest

/-- The forms of the entries of a mapping. -/
def displayEntries : List (Key × Data) → List String
  | [] => []
  | (key, value) :: rest => (displayKey key ++ ": " ++ display value) :: displayEntries rest

end

/-- A list of texts in messages. -/
def displayTexts (ss : List String) : String := display (.texts ss)

end Data

end RuleElements
